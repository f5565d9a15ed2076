import GLBindings.Registry.Error
import GLBindings.Text.Blank
import GLBindings.Xml.Tree

namespace GLBindings

open GLBindings.Text
open GLBindings.Xml (Element Node)

/-!
# Registry — declarations in mixed content

A command and a parameter are declared like `const <ptype>GLchar</ptype> *<name>s</name>`: text,
a tagged type and a tagged name. One pass over the children collects what they say.

* `Declaration` — what has been collected.
* `Declaration.scan` — takes up text: words, `const` and asterisks.
* `Declaration.addNode` — takes up a child.
* `Declaration.ofElement` — what an element declares.
-/

/-- What has been collected of a declaration. -/
structure Declaration where
  /-- The text of the last tagged name. -/
  name : Option String
  /-- The text of the last tagged type. -/
  taggedType : Option String
  /-- The words in front of the name, without `const`. -/
  words : List String
  /-- The texts and tagged types in front of the name, as they are joined to a full type. -/
  pieces : List String
  /-- Was there the word `const`? -/
  isConst : Bool
  /-- The number of asterisks, at most `maxIndirection`. -/
  indirection : Nat
  deriving Repr, DecidableEq, Inhabited

/-- The number of asterisks that a declaration counts to. -/
def maxIndirection : Nat := 255

/-- More asterisks, as far as they are counted. -/
def addStars (indirection stars : Nat) : Nat :=
  min maxIndirection (indirection + min maxIndirection stars)

namespace Declaration

/-- A declaration of nothing. -/
def empty : Declaration := ⟨none, none, [], [], false, 0⟩

/-- Takes up a word without white space and asterisks. -/
def addWord (d : Declaration) (word : List Char) : Declaration :=
  if word = "const".toList then { d with isConst := true }
  else { d with words := d.words ++ [String.ofList word] }

/-- Takes up a run without white space: its asterisks and the words between them. -/
def addToken (d : Declaration) (token : List Char) : Declaration :=
  (runsBetween (· == '*') token).foldl addWord
    { d with indirection := addStars d.indirection (token.count '*') }

/-- Takes up text in front of the name. -/
def scan (d : Declaration) (text : String) : Declaration :=
  match trimChars text.toList with
  | [] => d
  | cs => (Text.words cs).foldl addToken { d with pieces := d.pieces ++ [String.ofList cs] }

/-- Takes up a child. Text behind a name says nothing. -/
def addNode (d : Declaration) : Node → Declaration
  | .text value => if d.name.isNone then d.scan value else d
  | .element tag _ _ children =>
    let content := trim (Xml.contentOfAll (fun _ => "") children)
    if tag = "ptype" then { d with taggedType := some content, pieces := d.pieces ++ [content] }
    else if tag = "name" then { d with name := some content }
    else d
  | .comment => d
  | .instruction => d

/-- What an element declares. -/
def ofElement (e : Element) : Declaration :=
  e.children.foldl addNode empty

/-- The type without `const` and asterisks: the tagged one, else the words. -/
def base? (d : Declaration) : Option String :=
  match d.taggedType, d.words with
  | some t, _ => some t
  | none, [] => none
  | none, words => some (" ".intercalate words)

/-- The full type in front of the name, like `const GLubyte *`. -/
def fullType (d : Declaration) : String :=
  " ".intercalate d.pieces

end Declaration

end GLBindings
