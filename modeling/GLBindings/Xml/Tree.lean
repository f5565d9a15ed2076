import GLBindings.Text.Position

namespace GLBindings.Xml

open GLBindings.Text

/-!
# Xml — element trees

The meaning of a document: elements with attributes, and what stands in them.

* `Node`, `Element` — the tree.
* `Element.attribute?` — the value of an attribute without prefix.
* `Element.elements` — the child elements with a certain tag.
* `Node.contentWith` — all text inside, with marks in front of elements.
-/

/-- An attribute. -/
structure Attribute where
  /-- The namespace of its prefix, if it has one. -/
  space : Option String
  /-- Its name without prefix. -/
  name : String
  /-- Its value. -/
  value : String
  deriving Repr, DecidableEq, Inhabited

/-- A node of a document. -/
inductive Node where
  /-- An element; `tag` is its name without prefix. -/
  | element (tag : String) (attributes : List Attribute) (span : Span) (children : List Node)
  /-- Text between markup. -/
  | text (value : String)
  /-- A comment. -/
  | comment
  /-- A processing instruction. -/
  | instruction
  deriving Repr, Inhabited

/-- An element of a document. -/
structure Element where
  /-- Its name without prefix. -/
  tag : String
  /-- Its attributes in order. -/
  attributes : List Attribute
  /-- Its bytes, from the start tag to the end tag. -/
  span : Span
  /-- What stands in it. -/
  children : List Node
  deriving Repr, Inhabited

/-- The node that is this element. -/
def Element.toNode (e : Element) : Node :=
  .element e.tag e.attributes e.span e.children

/-- The element that a node is. -/
def Node.element? : Node → Option Element
  | .element tag attributes span children => some ⟨tag, attributes, span, children⟩
  | _ => none

namespace Element

/-- The value of the attribute with this name and no prefix. -/
def attribute? (e : Element) (name : String) : Option String :=
  (e.attributes.find? fun a => a.space.isNone && a.name == name).map (·.value)

/-- The child elements in order. -/
def childElements (e : Element) : List Element :=
  e.children.filterMap Node.element?

/-- The child elements with this tag. -/
def elements (e : Element) (tag : String) : List Element :=
  e.childElements.filter (·.tag == tag)

end Element

/-! ### Text inside -/

mutual

/-- All text inside a node in order, with `mark tag` in front of each element. -/
def Node.contentWith (mark : String → String) : Node → String
  | .element tag _ _ children => mark tag ++ contentOfAll mark children
  | .text value => value
  | .comment => ""
  | .instruction => ""

/-- All text inside nodes in order, with `mark tag` in front of each element. -/
def contentOfAll (mark : String → String) : List Node → String
  | [] => ""
  | n :: ns => n.contentWith mark ++ contentOfAll mark ns

end

/-- All text inside an element. -/
def Element.content (e : Element) : String :=
  contentOfAll (fun _ => "") e.children

end GLBindings.Xml
