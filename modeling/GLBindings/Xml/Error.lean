import GLBindings.Text.Position

namespace GLBindings.Xml

open GLBindings.Text

/-!
# Xml — why a text is not a document

* `Error` — one constructor for each cause, with the place where it was found.
* `Error.message` — its wording.
* `Error.place` — the place that a report points at.
-/

/-- Why a text is not a document. -/
inductive Error where
  /-- No name, or a name that begins with a wrong character. -/
  | invalidName (place : Place)
  /-- One certain character had to follow. -/
  | expectedChar (expected found : Char) (place : Place)
  /-- One of several characters had to follow; `what` describes them. -/
  | expectedOneOf (what : String) (found : Char) (place : Place)
  /-- A certain text had to follow. -/
  | expectedText (text : String) (place : Place)
  /-- Nothing that may stand here begins like this. -/
  | unknownToken (place : Place)
  /-- The text ends inside a tag. -/
  | endOfInput
  /-- There is no element. -/
  | noRoot
  /-- The text ends before the root element does. -/
  | unclosedRoot
  /-- An end tag does not name the element that is open. -/
  | wrongEndTag (expected found : String) (place : Place)
  /-- An element has two attributes of one name. -/
  | duplicateAttribute (name : String) (place : Place)
  /-- An element binds one namespace prefix twice. -/
  | duplicateNamespace (name : String) (place : Place)
  /-- No namespace is bound to the prefix. -/
  | unboundPrefix (name : String) (place : Place)
  /-- No entity has this name. -/
  | unknownEntity (name : String) (place : Place)
  /-- An ampersand begins no reference. -/
  | malformedReference (place : Place)
  /-- A comment holds two hyphens in a row or ends in one. -/
  | invalidComment (place : Place)
  /-- A text holds what ends a CDATA section. -/
  | cdataEndInText (place : Place)
  /-- A character that no document may hold. -/
  | nonXmlChar (found : Char) (place : Place)
  /-- A declaration that is not at the start. -/
  | misplacedDeclaration (place : Place)
  /-- A document type declaration, which is not read. -/
  | doctype
  /-- An element with the prefix that declares namespaces. -/
  | xmlnsElement (place : Place)
  /-- The prefix `xml` bound to another namespace than its own. -/
  | wrongXmlUri (place : Place)
  /-- The namespace of `xml` bound to another prefix. -/
  | misusedXmlUri (place : Place)
  /-- The namespace of `xmlns` bound to a prefix. -/
  | misusedXmlnsUri (place : Place)
  deriving Repr, DecidableEq

/-- A character that no document may hold, as its escape in single quotes. -/
def escaped (c : Char) : String :=
  if c.toNat = 0 then "'\\0'"
  else "'\\u\x7b" ++ String.ofList (Nat.toDigits 16 c.toNat) ++ "\x7d'"

namespace Error

/-- Where the fault is; the start of the text where the cause has no place of its own. -/
def place : Error → Place
  | invalidName p | expectedChar _ _ p | expectedOneOf _ _ p | expectedText _ p
  | unknownToken p | wrongEndTag _ _ p | duplicateAttribute _ p | duplicateNamespace _ p
  | unboundPrefix _ p | unknownEntity _ p | malformedReference p | invalidComment p
  | cdataEndInText p | nonXmlChar _ p | misplacedDeclaration p | xmlnsElement p
  | wrongXmlUri p | misusedXmlUri p | misusedXmlnsUri p => p
  | endOfInput | noRoot | unclosedRoot | doctype => ⟨1, 1⟩

/-- The wording of an error. -/
def message : Error → String
  | invalidName p => s!"invalid name token at {p}"
  | expectedChar e f p => s!"expected '{e}' not '{f}' at {p}"
  | expectedOneOf what f p => s!"expected {what} not '{f}' at {p}"
  | expectedText t p => s!"expected '{t}' at {p}"
  | unknownToken p => s!"unknown token at {p}"
  | endOfInput => "unexpected end of stream"
  | noRoot => "the document does not have a root node"
  | unclosedRoot => "the root node was opened but never closed"
  | wrongEndTag e f p => s!"expected '{e}' tag, not '{f}' at {p}"
  | duplicateAttribute n p => s!"attribute '{n}' at {p} is already defined"
  | duplicateNamespace n p => s!"namespace '{n}' at {p} is already defined"
  | unboundPrefix n p => s!"an unknown namespace prefix '{n}' at {p}"
  | unknownEntity n p => s!"unknown entity reference '{n}' at {p}"
  | malformedReference p => s!"malformed entity reference at {p}"
  | invalidComment p => s!"comment at {p} contains '--'"
  | cdataEndInText p => s!"']]>' at {p} is not allowed inside a character data"
  | nonXmlChar c p => s!"a non-XML character {escaped c} found at {p}"
  | misplacedDeclaration p => s!"unexpected XML declaration at {p}"
  | doctype => "XML with DTD detected"
  | xmlnsElement p => s!"the 'xmlns' prefix is used at {p}, but it must not be"
  | wrongXmlUri p => s!"'xml' namespace prefix mapped to wrong URI at {p}"
  | misusedXmlUri p => s!"the 'xml' namespace URI is used for not 'xml' prefix at {p}"
  | misusedXmlnsUri p => s!"the 'xmlns' URI is used at {p}, but it must not be declared"

end Error

end GLBindings.Xml
