import GLBindings.Xml.CharacterData
import GLBindings.Xml.Scanner
import GLBindings.Xml.Tree

namespace GLBindings.Xml

open GLBindings.Text

/-!
# Xml — documents

Tokens are put together to a tree with one list of open elements, the innermost first. Namespace
prefixes are resolved on the way, since they decide which attributes have the same name.

* `Assembly` — what has been put together.
* `Assembly.add` — takes up one token.
* `Document.parse` — the root element of a text.
-/

/-- The namespaces that prefixes stand for, innermost binding first; `none` is the default. -/
abbrev Bindings := List (Option String × String)

/-- The namespace of the prefix `xml`. -/
def xmlUri : String := "http://www.w3.org/XML/1998/namespace"

/-- The namespace of the prefix `xmlns`. -/
def xmlnsUri : String := "http://www.w3.org/2000/xmlns/"

/-- An attribute whose prefix is not resolved yet. -/
structure RawAttribute where
  /-- Its name as written. -/
  name : QName
  /-- Where it stands. -/
  start : Position
  /-- Its value. -/
  value : String

/-- A start tag being read. -/
structure OpenTag where
  /-- The name of the element. -/
  name : QName
  /-- Where the tag starts. -/
  start : Position
  /-- The bindings it has declared. -/
  declared : Bindings
  /-- Its attributes. -/
  attributes : List RawAttribute

/-- An element whose end tag is still to come. -/
structure OpenElement where
  /-- The name of the element. -/
  name : QName
  /-- Where its start tag starts. -/
  start : Position
  /-- Its attributes. -/
  attributes : List Attribute
  /-- The bindings inside it. -/
  bindings : Bindings
  /-- What has been read of its content, last one first. -/
  reversed : List Node

/-- What has been put together. -/
structure Assembly where
  /-- The start tag being read. -/
  tag : Option OpenTag
  /-- The open elements, innermost first. -/
  stack : List OpenElement
  /-- The root element, once it is closed. -/
  root : Option Element

namespace Assembly

/-- Nothing. -/
def empty : Assembly := ⟨none, [], none⟩

/-- Adds a node to the innermost open element. -/
def addNode (a : Assembly) (n : Node) : Assembly :=
  match a.stack with
  | [] => a
  | top :: below => { a with stack := { top with reversed := n :: top.reversed } :: below }

/-- Adds text, to the text right in front of it if there is one. -/
def addText (a : Assembly) (value : String) : Assembly :=
  match a.stack with
  | [] => a
  | top :: below =>
    match top.reversed with
    | .text before :: others =>
      { a with stack := { top with reversed := .text (before ++ value) :: others } :: below }
    | _ => a.addNode (.text value)

/-- Adds a complete element: to the innermost open one, or as the root. -/
def addElement (a : Assembly) (e : Element) : Assembly :=
  match a.stack with
  | [] => { a with root := some e }
  | _ => a.addNode e.toNode

/-- The bindings around the next element. -/
def bindings (a : Assembly) : Bindings :=
  match a.stack with
  | [] => []
  | top :: _ => top.bindings

end Assembly

/-! ### Namespaces -/

/-- Takes up the binding of a prefix, or of the default namespace if there is no prefix. -/
def OpenTag.bind (t : OpenTag) (bound : Option String) (start : Position) (uri : String) :
    Except Error OpenTag :=
  let declared := { t with declared := t.declared ++ [(bound, uri)] }
  match bound with
  | none =>
    if uri = xmlUri then .error (.misusedXmlUri start.place)
    else if uri = xmlnsUri then .error (.misusedXmlnsUri start.place)
    else .ok declared
  | some name =>
    if uri = xmlnsUri then .error (.misusedXmlnsUri start.place)
    else if name = "xml" then
      if uri = xmlUri then .ok t else .error (.wrongXmlUri start.place)
    else if uri = xmlUri then .error (.misusedXmlUri start.place)
    else if (t.declared.lookup bound).isSome then .error (.duplicateNamespace name start.place)
    else .ok declared

/-- Takes up an attribute, which may be the binding of a namespace. The name `xmlns` binds the
default namespace whatever prefix stands in front of it, and that prefix need not be bound. -/
def OpenTag.addAttribute (t : OpenTag) (name : QName) (start : Position) (value : String) :
    Except Error OpenTag :=
  if name.qualifier = "xmlns" then t.bind (some name.localName) start value
  else if name.localName = "xmlns" then t.bind none start value
  else .ok { t with attributes := t.attributes ++ [⟨name, start, value⟩] }

/-- The namespace of a prefix that is not empty. -/
def resolve (bindings : Bindings) (qualifier : String) (place : Place) : Except Error String :=
  match bindings.lookup (some qualifier) with
  | some uri => .ok uri
  | none => .error (.unboundPrefix qualifier place)

/-- The namespace of an attribute; one without prefix has none. -/
def attributeSpace (bindings : Bindings) (a : RawAttribute) : Except Error (Option String) :=
  if a.name.qualifier = "" then .ok none
  else if a.name.qualifier = "xml" then .ok (some xmlUri)
  else some <$> resolve bindings a.name.qualifier a.start.place

/-- The attributes with their prefixes resolved, behind the ones in `done`. No two may have the
same namespace and name. -/
def resolveAttributes (bindings : Bindings) (done : List Attribute) :
    List RawAttribute → Except Error (List Attribute)
  | [] => .ok done
  | a :: rest => do
    let space ← attributeSpace bindings a
    if done.any fun b => b.space == space && b.name == a.name.localName then
      .error (.duplicateAttribute a.name.localName a.start.place)
    else
      resolveAttributes bindings (done ++ [⟨space, a.name.localName, a.value⟩]) rest

/-! ### Tokens -/

namespace Assembly

/-- The element that a start tag opens, when the tag is complete. -/
def complete (a : Assembly) (t : OpenTag) : Except Error OpenElement := do
  let bindings := t.declared ++ a.bindings
  let attributes ← resolveAttributes bindings [] t.attributes
  if t.name.qualifier ≠ "" then
    let _ ← resolve bindings t.name.qualifier (t.start.step '<').place
  return ⟨t.name, t.start, attributes, bindings, []⟩

/-- The element that ends at `stop`. -/
def close (e : OpenElement) (stop : Position) : Element :=
  ⟨e.name.localName, e.attributes, ⟨e.start.offset, stop.offset - e.start.offset⟩,
    e.reversed.reverse⟩

/-- Takes up one token. -/
def add (a : Assembly) : Token → Except Error Assembly
  | .startTag name start =>
    if name.qualifier = "xmlns" then .error (.xmlnsElement (start.step '<').place)
    else .ok { a with tag := some ⟨name, start, [], []⟩ }
  | .attribute name start value => do
    match a.tag with
    | none => return a
    | some t => return { a with tag := some (← t.addAttribute name start (← attributeValue value)) }
  | .tagOpens _ => do
    match a.tag with
    | none => return a
    | some t => return { a with tag := none, stack := (← a.complete t) :: a.stack }
  | .tagCloses stop => do
    match a.tag with
    | none => return a
    | some t => return { a with tag := none }.addElement (close (← a.complete t) stop)
  | .endTag name start stop =>
    match a.stack with
    | [] => .ok a
    | top :: below =>
      if name = top.name then .ok ({ a with stack := below }.addElement (close top stop))
      else .error (.wrongEndTag top.name.written name.written start.place)
  | .text content => do
    return a.addText (← textValue content)
  | .cdata content => .ok (a.addText (cdataValue content))
  | .comment => .ok (a.addNode .comment)
  | .instruction => .ok (a.addNode .instruction)

/-- Takes up tokens in order. -/
def addAll (a : Assembly) (tokens : List Token) : Except Error Assembly :=
  tokens.foldlM add a

/-- The root element of a complete document. -/
def finish (a : Assembly) : Except Error Element :=
  match a.root, a.stack with
  | some e, _ => .ok e
  | none, [] => .error .noRoot
  | none, _ :: _ => .error .unclosedRoot

end Assembly

/-- The root element of a text. An error that the scanner meets comes behind all errors in the
tokens in front of it. -/
def Document.parse (text : String) : Except Error Element := do
  let (tokens, error?) := scan text
  let assembly ← Assembly.empty.addAll tokens
  match error? with
  | some e => .error e
  | none => assembly.finish

end GLBindings.Xml
