import GLBindings.Xml.Error
import GLBindings.Xml.Token

namespace GLBindings.Xml

open GLBindings.Text

/-!
# Xml — the scanner

A text is cut into tokens from left to right. What may follow depends on little: whether the
root element is still to come, how many elements are open, or whether a start tag is being read.

* `Cursor` — what is left of the text, and where that is.
* `Stage` — what may follow.
* `Stage.step` — reads one token.
* `scan` — all tokens up to the end of the text or to the first error.
-/

/-- What is left of the text, and the position where it starts. -/
structure Cursor where
  /-- The characters to come. -/
  rest : List Char
  /-- Where they start. -/
  pos : Position
  deriving Repr, Inhabited

namespace Cursor

/-- The cursor at the start of a text. -/
def ofChars (cs : List Char) : Cursor := ⟨cs, .start⟩

/-- The cursor behind `n` more characters. -/
def drop (c : Cursor) (n : Nat) : Cursor :=
  ⟨c.rest.drop n, c.pos.advance (c.rest.take n)⟩

/-- Does this text come next? -/
def startsWith (c : Cursor) (text : String) : Bool :=
  text.toList.isPrefixOf c.rest

/-- The characters to come as long as they satisfy `p`, and the cursor behind them. -/
def takeWhile (c : Cursor) (p : Char → Bool) : List Char × Cursor :=
  let taken := c.rest.takeWhile p
  (taken, c.drop taken.length)

/-- The cursor behind white space. -/
def skipSpaces (c : Cursor) : Cursor :=
  (c.takeWhile isSpace).2

end Cursor

/-! ### Single characters -/

/-- The first byte of a character in UTF-8, as a character: errors name the byte they met. -/
def leadByte (c : Char) : Char :=
  let n := c.toNat
  if n < 0x80 then c
  else if n < 0x800 then Char.ofNat (0xC0 + n / 0x40)
  else if n < 0x10000 then Char.ofNat (0xE0 + n / 0x1000)
  else Char.ofNat (0xF0 + n / 0x40000)

/-- Reads one certain character. -/
def expectChar (expected : Char) (c : Cursor) : Except Error Cursor :=
  match c.rest with
  | [] => .error .endOfInput
  | found :: _ =>
    if found = expected then .ok (c.drop 1)
    else .error (.expectedChar expected (leadByte found) c.pos.place)

/-- Reads a certain text. -/
def expectText (text : String) (c : Cursor) : Except Error Cursor :=
  if c.startsWith text then .ok (c.drop text.length)
  else .error (.expectedText text c.pos.place)

/-- Characters that may stand in a document, up to the first place where `stop` holds of what is
left. -/
def charsUntil (stop : List Char → Bool) : List Char → List Char
  | [] => []
  | c :: cs => if isXmlChar c && !stop (c :: cs) then c :: charsUntil stop cs else []

/-- Reads up to the first place where `stop` holds of what is left, or to the end. -/
def takeUntil (stop : List Char → Bool) (c : Cursor) : Except Error (List Char × Cursor) :=
  let taken := charsUntil stop c.rest
  let next := c.drop taken.length
  match next.rest with
  | found :: _ =>
    if isXmlChar found then .ok (taken, next) else .error (.nonXmlChar found next.pos.place)
  | [] => .ok (taken, next)

/-! ### Names -/

/-- Reads a name in which colons have no meaning. -/
def readName (c : Cursor) : Except Error (List Char × Cursor) :=
  match c.rest with
  | [] => .error (.invalidName c.pos.place)
  | first :: _ =>
    if isNameStart first then .ok (c.takeWhile isNameChar)
    else .error (.invalidName c.pos.place)

/-- Does a non-empty part of a name begin as it must? -/
def beginsWell (part : List Char) : Bool :=
  match part with
  | [] => true
  | first :: _ => isNameStart first

/-- Reads a name with at most one colon. -/
def readQName (c : Cursor) : Except Error (QName × Cursor) :=
  let (name, next) := c.takeWhile isNameChar
  let invalid := Except.error (.invalidName c.pos.place)
  match splitAt (· == ':') name with
  | [localName] =>
    if localName ≠ [] && beginsWell localName then .ok (⟨"", String.ofList localName⟩, next)
    else invalid
  | [qualifier, localName] =>
    if localName ≠ [] && beginsWell localName && beginsWell qualifier then
      .ok (⟨String.ofList qualifier, String.ofList localName⟩, next)
    else invalid
  | _ => invalid

/-! ### Attributes -/

/-- Reads a quotation mark. -/
def readQuote (c : Cursor) : Except Error (Char × Cursor) :=
  match c.rest with
  | [] => .error .endOfInput
  | found :: _ =>
    if found = '\'' || found = '"' then .ok (found, c.drop 1)
    else .error (.expectedOneOf "a quote" (leadByte found) c.pos.place)

/-- Does the text begin with the quotation mark or with `<`, which no value may hold? -/
def endsValue (quote : Char) : List Char → Bool
  | [] => true
  | c :: _ => c == quote || c == '<'

/-- Reads a name, an equals sign and a value between quotation marks. -/
def readAttribute (c : Cursor) : Except Error (Token × Cursor) := do
  let (name, c₁) ← readQName c
  let c₂ ← expectChar '=' c₁.skipSpaces
  let (quote, c₃) ← readQuote c₂.skipSpaces
  let (value, c₄) ← takeUntil (endsValue quote) c₃
  let c₅ ← expectChar quote c₄
  return (.attribute name c.pos ⟨c₃.pos, value⟩, c₅)

/-! ### Markup that is no tag -/

/-- Does a text hold two hyphens in a row? -/
def hasDoubleHyphen : List Char → Bool
  | '-' :: '-' :: _ => true
  | _ :: cs => hasDoubleHyphen cs
  | [] => false

/-- Reads a comment. -/
def readComment (c : Cursor) : Except Error (Token × Cursor) := do
  let (content, c₁) ← takeUntil ("-->".toList.isPrefixOf ·) (c.drop 4)
  let c₂ ← expectText "-->" c₁
  if hasDoubleHyphen content || content.getLast? == some '-' then
    .error (.invalidComment c.pos.place)
  else
    return (.comment, c₂)

/-- Reads a processing instruction. -/
def readInstruction (c : Cursor) : Except Error (Token × Cursor) := do
  if c.startsWith "<?xml " then .error (.misplacedDeclaration c.pos.place)
  else
    let (_, c₁) ← readName (c.drop 2)
    let (_, c₂) ← takeUntil ("?>".toList.isPrefixOf ·) c₁.skipSpaces
    let c₃ ← expectText "?>" c₂
    return (.instruction, c₃)

/-- Reads a CDATA section. -/
def readCdata (c : Cursor) : Except Error (Token × Cursor) := do
  let (content, c₁) ← takeUntil ("]]>".toList.isPrefixOf ·) (c.drop 9)
  let c₂ ← expectText "]]>" c₁
  return (.cdata content, c₂)

/-- Does a text hold the end of a CDATA section? -/
def hasCdataEnd : List Char → Bool
  | ']' :: ']' :: '>' :: _ => true
  | _ :: cs => hasCdataEnd cs
  | [] => false

/-- Reads characters up to the next tag. -/
def readText (c : Cursor) : Except Error (Token × Cursor) := do
  let (content, c₁) ← takeUntil (·.head? == some '<') c
  if hasCdataEnd content then .error (.cdataEndInText c₁.pos.place)
  else return (.text ⟨c.pos, content⟩, c₁)

/-! ### Tags -/

/-- Reads `<` and the name of a start tag. -/
def readStartTag (c : Cursor) : Except Error (Token × Cursor) := do
  let (name, c₁) ← readQName (c.drop 1)
  return (.startTag name c.pos, c₁)

/-- Reads an end tag. -/
def readEndTag (c : Cursor) : Except Error (Token × Cursor) := do
  let (name, c₁) ← readQName (c.drop 2)
  let c₂ ← expectChar '>' c₁.skipSpaces
  return (.endTag name c.pos c₂.pos, c₂)

/-! ### The declaration -/

/-- Reads white space, which may only be missing in front of `?>` and at the end. -/
def spaceOrEnd (c : Cursor) : Except Error Cursor :=
  match c.rest with
  | [] => .ok c
  | found :: _ =>
    if isSpace found then .ok c.skipSpaces
    else if c.startsWith "?>" then .ok c
    else .error (.expectedOneOf "a whitespace" (leadByte found) c.pos.place)

/-- Reads an attribute that may be missing, and the space behind it. -/
def optionalAttribute (name : String) (c : Cursor) : Except Error Cursor := do
  if c.startsWith name then
    let (_, c₁) ← readAttribute c
    spaceOrEnd c₁
  else
    return c

/-- Reads the declaration at the start of a document, if there is one. -/
def readDeclaration (c : Cursor) : Except Error Cursor := do
  if c.startsWith "<?xml " then
    let c₁ ← spaceOrEnd (c.drop 5)
    if c₁.startsWith "version" then
      let (_, c₂) ← readAttribute c₁
      let c₃ ← spaceOrEnd c₂
      let c₄ ← optionalAttribute "encoding" c₃
      let c₅ ← if c₄.startsWith "standalone" then (·.2) <$> readAttribute c₄ else pure c₄
      expectText "?>" c₅.skipSpaces
    else
      .error (.expectedText "version" c₁.pos.place)
  else
    return c

/-! ### Tokens in order -/

/-- What may follow. -/
inductive Stage where
  /-- The root element is still to come. -/
  | prolog
  /-- Attributes of a start tag, or its end; so many elements are open around it. -/
  | inTag (depth : Nat)
  /-- The content of the innermost of so many open elements. -/
  | content (depth : Nat)
  /-- The root element is closed. -/
  | epilog
  deriving Repr, DecidableEq

/-- The outcome of reading one token. -/
inductive Step where
  /-- A token, and what comes behind it. -/
  | token (t : Token) (stage : Stage) (next : Cursor)
  /-- The text ends here. -/
  | done
  /-- The text goes wrong here. -/
  | failed (e : Error)

/-- What is open when an element inside `depth` others has ended. -/
def Stage.behind (depth : Nat) : Stage :=
  if depth = 0 then .epilog else .content depth

/-- The step that a reader makes. -/
def Step.of (stage : Stage) : Except Error (Token × Cursor) → Step
  | .ok (t, next) => .token t stage next
  | .error e => .failed e

/-- Reads a comment or an instruction outside the root element; `other` is the step for anything
else. -/
def stepOutside (stage : Stage) (c : Cursor) (other : Step) : Step :=
  if c.rest.isEmpty then .done
  else if c.startsWith "<!--" then .of stage (readComment c)
  else if c.startsWith "<?" then .of stage (readInstruction c)
  else other

/-- Reads an attribute or the end of a start tag. -/
def stepInTag (depth : Nat) (c : Cursor) : Step :=
  if c.rest.isEmpty then .done
  else
    let next := c.skipSpaces
    match next.rest with
    | [] => .failed .endOfInput
    | '/' :: _ =>
      match expectChar '>' (next.drop 1) with
      | .ok behind => .token (.tagCloses behind.pos) (.behind depth) behind
      | .error e => .failed e
    | '>' :: _ => .token (.tagOpens (next.drop 1).pos) (.content (depth + 1)) (next.drop 1)
    | found :: _ =>
      if next.pos = c.pos then
        .failed (.expectedOneOf "a whitespace" (leadByte found) next.pos.place)
      else
        .of (.inTag depth) (readAttribute next)

/-- Reads one token inside an element. -/
def stepInContent (depth : Nat) (c : Cursor) : Step :=
  match c.rest with
  | [] => .done
  | ['<'] => .failed (.unknownToken c.pos.place)
  | '<' :: '!' :: _ =>
    if c.startsWith "<!--" then .of (.content depth) (readComment c)
    else if c.startsWith "<![CDATA[" then .of (.content depth) (readCdata c)
    else .failed (.unknownToken c.pos.place)
  | '<' :: '?' :: _ => .of (.content depth) (readInstruction c)
  | '<' :: '/' :: _ => .of (.behind (depth - 1)) (readEndTag c)
  | '<' :: _ => .of (.inTag depth) (readStartTag c)
  | _ => .of (.content depth) (readText c)

/-- Reads one token. -/
def Stage.step (c : Cursor) : Stage → Step
  | .prolog =>
    let next := c.skipSpaces
    stepOutside .prolog next <|
      if next.startsWith "<!DOCTYPE" then .failed .doctype
      else if next.startsWith "<" then .of (.inTag 0) (readStartTag next)
      else .failed (.unknownToken next.pos.place)
  | .inTag depth => stepInTag depth c
  | .content depth => stepInContent depth c
  | .epilog =>
    let next := c.skipSpaces
    stepOutside .epilog next (.failed (.unknownToken next.pos.place))

/-- At most `fuel` tokens behind the reversed `tokens`, and the error that ends them. -/
def scanFrom (tokens : List Token) : Nat → Stage → Cursor → List Token × Option Error
  | 0, _, _ => (tokens.reverse, none)
  | fuel + 1, stage, c =>
    match stage.step c with
    | .token t stage' next => scanFrom (t :: tokens) fuel stage' next
    | .done => (tokens.reverse, none)
    | .failed e => (tokens.reverse, some e)

/-- The tokens of a text up to its end or to the first error. Every token takes a character, so
the length of the text bounds their number. -/
def scan (text : String) : List Token × Option Error :=
  let start := Cursor.ofChars text.toList
  let body := if start.rest.head? == some '\uFEFF' then start.drop 1 else start
  match readDeclaration body with
  | .ok c => scanFrom [] (text.length + 1) .prolog c
  | .error e => ([], some e)

end GLBindings.Xml
