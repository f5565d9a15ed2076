import GLBindings.Text.Blank

namespace GLBindings

/-!
# Version — dotted version numbers

Components compare as numbers, so `1.2` is before `1.10`, and missing trailing components count
as zero, so `2` and `2.0` are the same version although they are written differently.

* `Version` — one or more 32-bit components.
* `Version.parse?` and `Version.toString` — reading and the canonical written form.
* `Version.compare` — lexicographic order of the components padded with zeros.
* `Version.significant` — the components that decide equality and the hash.
-/

/-- A dotted version number. -/
structure Version where
  /-- First component. -/
  major : UInt32
  /-- Components behind the first. -/
  rest : List UInt32
  deriving Repr, Inhabited

namespace Version

/-- The components as written. -/
def parts (v : Version) : List UInt32 :=
  v.major :: v.rest

/-- Second component, zero when there is none. -/
def minor (v : Version) : UInt32 :=
  v.rest.headD 0

/-- The version `major.minor`. -/
def ofPair (major minor : UInt32) : Version :=
  ⟨major, [minor]⟩

/-- `3.3` for the components 3 and 3. -/
protected def toString (v : Version) : String :=
  ".".intercalate (v.parts.map fun n => Nat.repr n.toNat)

instance : ToString Version := ⟨Version.toString⟩

/-! ### Order and equality -/

/-- Order of component lists, the shorter one padded with zeros. -/
def compareParts : List UInt32 → List UInt32 → Ordering
  | [], [] => .eq
  | [], b :: bs => (Ord.compare 0 b).then (compareParts [] bs)
  | a :: as, [] => (Ord.compare a 0).then (compareParts as [])
  | a :: as, b :: bs => (Ord.compare a b).then (compareParts as bs)

/-- Numeric order of versions. -/
protected def compare (v w : Version) : Ordering :=
  compareParts v.parts w.parts

/-- A component list without its trailing zeros. -/
def dropTrailingZeros (parts : List UInt32) : List UInt32 :=
  (parts.reverse.dropWhile (· == 0)).reverse

/-- The components that are left when trailing zeros are dropped. -/
def significant (v : Version) : List UInt32 :=
  dropTrailingZeros v.parts

instance : Ord Version := ⟨Version.compare⟩

instance : BEq Version := ⟨fun v w => v.significant == w.significant⟩

instance : Hashable Version := ⟨fun v => hash v.significant⟩

/-- Is `v` not after `w`? -/
def le (v w : Version) : Bool :=
  (v.compare w).isLE

/-! ### Reading -/

/-- Why a text is not a version. -/
inductive ParseError where
  /-- Nothing but white space. -/
  | empty
  /-- Some component is not a 32-bit number; `text` is the text without white space around it. -/
  | invalid (text : String)
  deriving Repr, DecidableEq

/-- The wording of a parse error. -/
def ParseError.message : ParseError → String
  | .empty => "empty version"
  | .invalid text => s!"invalid version '{text}', expected 'X.Y'"

/-- The number that ASCII digits denote, if there are only digits. -/
def digitsValue? (cs : List Char) : Option Nat :=
  cs.foldl
    (fun acc c => acc.bind fun n => if c.isDigit then some (10 * n + (c.toNat - 48)) else none)
    (some 0)

/-- A component: one optional plus sign and at least one digit, below `2 ^ 32`. -/
def component? (cs : List Char) : Option UInt32 :=
  let digits := match cs with
    | '+' :: rest => rest
    | _ => cs
  match digits, digitsValue? digits with
  | _ :: _, some n => if n < UInt32.size then some (UInt32.ofNat n) else none
  | _, _ => none

/-- Reads dotted components between optional white space. -/
def parse? (s : String) : Except ParseError Version :=
  match Text.trimChars s.toList with
  | [] => .error .empty
  | text =>
    match (Text.splitAt (· == '.') text).mapM component? with
    | some (major :: rest) => .ok ⟨major, rest⟩
    | _ => .error (.invalid (String.ofList text))

end Version

end GLBindings
