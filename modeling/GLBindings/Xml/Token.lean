import GLBindings.Text.Position

namespace GLBindings.Xml

open GLBindings.Text

/-!
# Xml — characters and tokens

The classes of characters that decide what a document may hold, and the pieces that it is written
in, in the order of the text. A token keeps its characters as written; references and line ends are
resolved when the tree is put together.

* `isXmlChar`, `isSpace`, `isNameStart`, `isNameChar` — the classes of the XML recommendation.
* `QName` — a name with an optional namespace prefix.
* `Token` — what a scanner reads in one step.
-/

/-! ### Characters -/

/-- May the character stand in a document at all? -/
def isXmlChar (c : Char) : Bool :=
  let n := c.toNat
  if n < 0x20 then n == 9 || n == 10 || n == 13 else n != 0xFFFE && n != 0xFFFF

/-- White space between the parts of a tag. -/
def isSpace (c : Char) : Bool :=
  c == ' ' || c == '\t' || c == '\n' || c == '\r'

/-- A character beyond ASCII that may begin a name. -/
def isWideNameStart (n : Nat) : Bool :=
  (0xC0 ≤ n && n ≤ 0xD6) || (0xD8 ≤ n && n ≤ 0xF6) || (0xF8 ≤ n && n ≤ 0x2FF)
    || (0x370 ≤ n && n ≤ 0x37D) || (0x37F ≤ n && n ≤ 0x1FFF) || (0x200C ≤ n && n ≤ 0x200D)
    || (0x2070 ≤ n && n ≤ 0x218F) || (0x2C00 ≤ n && n ≤ 0x2FEF) || (0x3001 ≤ n && n ≤ 0xD7FF)
    || (0xF900 ≤ n && n ≤ 0xFDCF) || (0xFDF0 ≤ n && n ≤ 0xFFFD)
    || (0x10000 ≤ n && n ≤ 0xEFFFF)

/-- May the character begin a name? -/
def isNameStart (c : Char) : Bool :=
  c.isAlpha || c == ':' || c == '_' || isWideNameStart c.toNat

/-- May the character stand in a name? -/
def isNameChar (c : Char) : Bool :=
  let n := c.toNat
  isNameStart c || c.isDigit || c == '-' || c == '.' || n == 0xB7 || (0x300 ≤ n && n ≤ 0x36F)
    || (0x203F ≤ n && n ≤ 0x2040)

/-! ### Tokens -/

/-- A name with an optional namespace prefix. -/
structure QName where
  /-- What stands in front of the colon; empty without one. -/
  qualifier : String
  /-- What stands behind the colon. -/
  localName : String
  deriving Repr, DecidableEq, Inhabited

/-- The name as written. -/
def QName.written (n : QName) : String :=
  if n.qualifier = "" then n.localName else n.qualifier ++ ":" ++ n.localName

/-- Characters of the document with their position. -/
structure Excerpt where
  /-- Where the first character stands. -/
  start : Position
  /-- The characters as written. -/
  chars : List Char
  deriving Repr, DecidableEq, Inhabited

/-- A piece of a document. -/
inductive Token where
  /-- The name of a start tag; `start` is in front of `<`. -/
  | startTag (name : QName) (start : Position)
  /-- An attribute of the start tag before it. -/
  | attribute (name : QName) (start : Position) (value : Excerpt)
  /-- The end of a start tag whose element has content. -/
  | tagOpens (stop : Position)
  /-- The end of a start tag whose element is empty. -/
  | tagCloses (stop : Position)
  /-- An end tag. -/
  | endTag (name : QName) (start stop : Position)
  /-- Characters between tags. -/
  | text (content : Excerpt)
  /-- The inside of a CDATA section. -/
  | cdata (content : List Char)
  /-- A comment. -/
  | comment
  /-- A processing instruction. -/
  | instruction
  deriving Repr, DecidableEq

end GLBindings.Xml
