import GLBindings.Toml.Quoted

namespace GLBindings.Toml

open GLBindings.Text

/-!
# Toml — scalars without quotation marks

A scalar is kept as written. It has to look like one, but only a reader of a number sees whether
the number is within its bounds, and what stands in an integer away from its underscores.

* `isInteger`, `isFloat` — numbers, where an underscore may stand between two digits.
* `isDate`, `isTime`, `isDateTime` — dates and times of the calendar.
* `isScalar` — everything that is written without quotation marks.
* `scalarRun` — how far such a text reaches.
-/

/-! ### Underscores -/

/-- The text without a sign in front. -/
def dropSign : List Char → List Char
  | '+' :: cs | '-' :: cs => cs
  | cs => cs

/-- Does every underscore stand between two digits? -/
def isSeparated (digit : Char → Bool) (cs : List Char) : Bool :=
  match splitAt (· == '_') cs with
  | [] | [_] => true
  | first :: later =>
    later.all (fun group => group.head?.any digit)
      && (first :: later).dropLast.all (fun group => group.getLast?.any digit)

/-! ### Integers -/

/-- A digit of base sixteen. -/
def isHexDigit (c : Char) : Bool :=
  c.isDigit || ('a' ≤ c && c ≤ 'f') || ('A' ≤ c && c ≤ 'F')

/-- What follows the mark of a base: nothing, or digits with underscores between them. -/
def isBased (digit : Char → Bool) (cs : List Char) : Bool :=
  cs = [] || (splitAt (· == '_') cs).all fun group => group ≠ [] && group.all digit

/-- A decimal integer without underscores; a zero in front stands alone. -/
def isPlain (cs : List Char) : Bool :=
  cs ≠ [] && cs.all Char.isDigit && (cs.head? ≠ some '0' || cs.length = 1)

/-- An integer with an underscore behind its first digits. Beside underscores stand digits of base
sixteen at most; what else is in it is left to a reader of the number. -/
def isLoose (cs : List Char) : Bool :=
  let digits := (dropSign cs).takeWhile Char.isDigit
  let rest := (dropSign cs).drop digits.length
  rest.head? = some '_' && digits.head? ≠ some '0' && isSeparated isHexDigit cs
    && !rest.any ("eE. ".toList.contains ·)

/-- A decimal integer with or without sign, or one in base sixteen, eight or two. -/
def isInteger : List Char → Bool
  | '0' :: 'x' :: cs => isBased isHexDigit cs
  | '0' :: 'o' :: cs => isBased (fun c => '0' ≤ c && c ≤ '7') cs
  | '0' :: 'b' :: cs => isBased (fun c => c == '0' || c == '1') cs
  | cs => isPlain (dropSign cs) || isLoose cs

/-! ### Numbers with a point or an exponent -/

/-- Digits with underscores among them. -/
def isDigits (cs : List Char) : Bool :=
  cs.any Char.isDigit && cs.all fun c => c.isDigit || c == '_'

/-- What stands in front of a point or an exponent; a zero in front stands alone. -/
def isWhole (cs : List Char) : Bool :=
  isDigits cs && (cs.head? ≠ some '0' || cs.countP Char.isDigit = 1)

/-- A decimal number with places behind the point. -/
def isPointed (cs : List Char) : Bool :=
  match splitAt (· == '.') cs with
  | [whole, places] => isWhole whole && isDigits places
  | _ => false

/-- A number with a point or an exponent, or a special one. -/
def isFloat (cs : List Char) : Bool :=
  isSeparated Char.isDigit cs &&
    match splitAt (fun c => c == 'e' || c == 'E') (dropSign cs) with
    | [mantissa] => isPointed mantissa || mantissa = "inf".toList || mantissa = "nan".toList
    | [mantissa, exponent] =>
      (isPointed mantissa || isWhole mantissa) && isDigits (dropSign exponent)
    | _ => false

/-! ### Dates and times -/

/-- The number of a field with so many digits. -/
def field? (width : Nat) (cs : List Char) : Option Nat :=
  if cs.length = width && cs.all Char.isDigit then
    some (cs.foldl (fun n c => 10 * n + (c.toNat - '0'.toNat)) 0)
  else none

/-- The days of a month. -/
def daysIn (year month : Nat) : Nat :=
  if month = 2 then
    if year % 4 = 0 && (year % 100 ≠ 0 || year % 400 = 0) then 29 else 28
  else if month ∈ [4, 6, 9, 11] then 30
  else 31

/-- A day such as `1979-05-27`. -/
def isDate (cs : List Char) : Bool :=
  match splitAt (· == '-') cs with
  | [y, m, d] =>
    match field? 4 y, field? 2 m, field? 2 d with
    | some year, some month, some day =>
      1 ≤ month && month ≤ 12 && 1 ≤ day && day ≤ daysIn year month
    | _, _, _ => false
  | _ => false

/-- Seconds, with or without a fraction. -/
def isSeconds (cs : List Char) : Bool :=
  match splitAt (· == '.') cs with
  | [s] => (field? 2 s).any (· ≤ 60)
  | [s, fraction] => (field? 2 s).any (· ≤ 60) && fraction ≠ [] && fraction.all Char.isDigit
  | _ => false

/-- Hours and minutes such as `07:32`. -/
def isMinutes (h m : List Char) : Bool :=
  (field? 2 h).any (· ≤ 23) && (field? 2 m).any (· ≤ 59)

/-- A time such as `07:32` or `07:32:00`. -/
def isTime (cs : List Char) : Bool :=
  match splitAt (· == ':') cs with
  | [h, m] => isMinutes h m
  | [h, m, s] => isMinutes h m && isSeconds s
  | _ => false

/-- Hours and minutes away from the universal time. -/
def isOffset (cs : List Char) : Bool :=
  match splitAt (· == ':') cs with
  | [h, m] => isMinutes h m
  | _ => false

/-- A time of a day, with or without an offset. -/
def isClock (cs : List Char) : Bool :=
  let time := cs.takeWhile fun c => c.isDigit || c == ':' || c == '.'
  isTime time &&
    match cs.drop time.length with
    | [] => true
    | ['Z'] | ['z'] => true
    | '+' :: offset | '-' :: offset => isOffset offset
    | _ => false

/-- A day and a time, with the letter T or a space between them. -/
def isDateTime (cs : List Char) : Bool :=
  isDate (cs.take 10) &&
    match cs.drop 10 with
    | c :: clock => (c == 'T' || c == 't' || c == ' ') && isClock clock
    | [] => false

/-! ### All scalars -/

/-- A truth value, a number, or a date or time. -/
def isScalar (cs : List Char) : Bool :=
  cs = "true".toList || cs = "false".toList || isInteger cs || isFloat cs
    || isDate cs || isTime cs || isDateTime cs

/-- Can the character be a part of a scalar? Only what ends a value cannot. -/
def isScalarChar (c : Char) : Bool :=
  !"=,[]\x7b\x7d \t#\r\n".toList.contains c

/-- The characters of the scalar in front. White space belongs to it if more of it follows. -/
def scalarRun : List Char → List Char
  | [] => []
  | c :: cs =>
    if isScalarChar c then c :: scalarRun cs
    else if isSpace c then
      match scalarRun cs with
      | [] | '"' :: _ | '\'' :: _ => []
      | run => c :: run
    else []

end GLBindings.Toml
