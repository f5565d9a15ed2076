import GLBindings.Xml.Error
import GLBindings.Xml.Token

namespace GLBindings.Xml

open GLBindings.Text

/-!
# Xml — what characters mean

References stand for characters, and line ends of any kind become line feeds, or spaces in
attribute values. A character that a reference stands for is kept as it is.

* `Reference.read?` — the reference behind an ampersand.
* `textValue`, `cdataValue`, `attributeValue` — the meaning of characters as written.
-/

/-! ### References -/

/-- What stands behind an ampersand. -/
inductive Reference where
  /-- A character, given by its code or by a predefined name. -/
  | char (c : Char)
  /-- A name that is not predefined. -/
  | entity (name : String)
  deriving Repr, DecidableEq

/-- The value of a digit up to base sixteen. -/
def digitValue? (base : Nat) (c : Char) : Option Nat :=
  let value? :=
    if c.isDigit then some (c.toNat - 48)
    else if 'a' ≤ c && c ≤ 'f' then some (c.toNat - 87)
    else if 'A' ≤ c && c ≤ 'F' then some (c.toNat - 55)
    else none
  value?.filter (· < base)

/-- The number that digits denote, if it fits into 32 bits. -/
def codeValue? (base : Nat) (digits : List Char) : Option Nat :=
  if digits = [] then none
  else
    digits.foldl (fun acc c => do
      let n ← acc
      let d ← digitValue? base c
      if base * n + d < UInt32.size then some (base * n + d) else none) (some 0)

/-- The character with a code; a code that no character has stands for U+FFFD. -/
def charOfCode (n : Nat) : Char :=
  if h : n.isValidChar then Char.ofNatAux n h else '\uFFFD'

/-- The character that a predefined name stands for. -/
def predefined? : String → Option Char
  | "quot" => some '"'
  | "amp" => some '&'
  | "apos" => some '\''
  | "lt" => some '<'
  | "gt" => some '>'
  | _ => none

/-- Splits off the characters in front of a semicolon, which must be there. -/
def upToSemicolon (p : Char → Bool) (cs : List Char) : Option (List Char × List Char) :=
  match cs.dropWhile p with
  | ';' :: rest => some (cs.takeWhile p, rest)
  | _ => none

/-- A reference by code, in front of its digits. -/
def codeReference? (base : Nat) (cs : List Char) : Option (Reference × List Char) := do
  let (digits, rest) ← upToSemicolon (fun c => (digitValue? base c).isSome) cs
  let c := charOfCode (← codeValue? base digits)
  if isXmlChar c then some (.char c, rest) else none

/-- The reference behind an ampersand and what follows it; `none` if it is malformed. -/
def Reference.read? (cs : List Char) : Option (Reference × List Char) :=
  match cs with
  | '#' :: 'x' :: digits => codeReference? 16 digits
  | '#' :: digits => codeReference? 10 digits
  | first :: _ =>
    if isNameStart first then do
      let (name, rest) ← upToSemicolon isNameChar cs
      match predefined? (String.ofList name) with
      | some c => some (.char c, rest)
      | none => some (.entity (String.ofList name), rest)
    else none
  | [] => none

/-! ### Runs of characters between references -/

/-- A piece of character data. -/
inductive Fragment where
  /-- Characters as written. -/
  | plain (cs : List Char)
  /-- A character from a reference. -/
  | char (c : Char)
  deriving Repr, DecidableEq

/-- Reads the pieces that follow ampersands, each with the reference it begins with. The position
is the one in front of the ampersand. -/
def fragmentsBehind (pos : Position) : List (List Char) → Except Error (List Fragment)
  | [] => .ok []
  | piece :: pieces =>
    match Reference.read? piece with
    | none => .error (.malformedReference pos.place)
    | some (.entity name, _) => .error (.unknownEntity name pos.place)
    | some (.char c, rest) => do
      let more ← fragmentsBehind (pos.advance ('&' :: piece)) pieces
      return .char c :: .plain rest :: more

/-- The pieces of character data. -/
def fragments (e : Excerpt) : Except Error (List Fragment) :=
  match splitAt (· == '&') e.chars with
  | [] => .ok []
  | first :: pieces => do
    let more ← fragmentsBehind (e.start.advance first) pieces
    return .plain first :: more

/-! ### Text and CDATA -/

/-- Character data being put together. -/
structure Buffer where
  /-- The characters so far, last one first. -/
  reversed : List Char
  /-- Is the next character kept as it is? -/
  asIs : Bool

namespace Buffer

/-- Adds a character as written. A carriage return waits for what follows: with a line feed it
becomes one line feed, else one of its own. `last` says that nothing follows. -/
def pushPlain (b : Buffer) (c : Char) (last : Bool) : Buffer :=
  if b.asIs then ⟨c :: b.reversed, false⟩
  else
    match b.reversed with
    | '\r' :: before =>
      if c = '\n' then ⟨'\n' :: before, false⟩
      else if last && c = '\r' then ⟨'\n' :: '\n' :: before, false⟩
      else ⟨c :: '\n' :: before, false⟩
    | before => if last && c = '\r' then ⟨'\n' :: before, false⟩ else ⟨c :: before, false⟩

/-- Adds characters as written. -/
def pushAll (b : Buffer) (last : Bool) : List Char → Buffer
  | [] => b
  | c :: cs => pushAll (b.pushPlain c (last && cs.isEmpty)) last cs

/-- Adds fragments. The character behind one from a reference is kept as it is. -/
def pushFragments (b : Buffer) : List Fragment → Buffer
  | [] => b
  | .plain cs :: rest => pushFragments (b.pushAll rest.isEmpty cs) rest
  | .char c :: rest => pushFragments ⟨c :: b.reversed, true⟩ rest

/-- The text put together. -/
def text (b : Buffer) : String := String.ofList b.reversed.reverse

end Buffer

/-- The meaning of characters between tags. -/
def textValue (e : Excerpt) : Except Error String := do
  return (Buffer.pushFragments ⟨[], false⟩ (← fragments e)).text

/-- The meaning of the inside of a CDATA section. -/
def cdataValue (cs : List Char) : String :=
  (Buffer.pushAll ⟨[], false⟩ true cs).text

/-! ### Attribute values -/

/-- Line ends and tabs become spaces, a carriage return with its line feed one. -/
def spaced : List Char → List Char
  | '\r' :: '\n' :: cs => ' ' :: spaced cs
  | '\r' :: cs => ' ' :: spaced cs
  | '\n' :: cs => ' ' :: spaced cs
  | '\t' :: cs => ' ' :: spaced cs
  | c :: cs => c :: spaced cs
  | [] => []

/-- The meaning of an attribute value. -/
def attributeValue (e : Excerpt) : Except Error String := do
  let parts := (← fragments e).map fun
    | .plain cs => spaced cs
    | .char c => [c]
  return String.ofList parts.flatten

end GLBindings.Xml
