import GLBindings.Text.CaseTable

namespace GLBindings.Text

/-!
# Text — letter case by the Unicode standard

* `upperOf`, `lowerOf` — the full case mapping of one character: one or more characters.
* `upper` — a text with every character mapped.
* `lower` — the same for lower case, where a capital sigma that ends a word becomes `ς`.
* `capitalize`, `decapitalize` — the mapping of the first character alone.
-/

/-! ### One character -/

/-- The image of a code point by the first run that holds it, else the code point itself. -/
def runImage (runs : List CaseRun) (n : Nat) : Nat :=
  match runs.find? (·.holds n) with
  | some r => r.apply n
  | none => n

/-- The image of a character: its expansion if it has one, else its simple mapping. -/
def caseImage (expansions : List (Nat × List Nat)) (runs : List CaseRun) (c : Char) : List Char :=
  match expansions.lookup c.toNat with
  | some image => image.map Char.ofNat
  | none => [Char.ofNat (runImage runs c.toNat)]

/-- Upper case of one character. -/
def upperOf (c : Char) : List Char :=
  if c.toNat < 128 then [c.toUpper] else caseImage upperExpansions upperRuns c

/-- Lower case of one character, whatever stands around it. -/
def lowerOf (c : Char) : List Char :=
  if c.toNat < 128 then [c.toLower] else caseImage lowerExpansions lowerRuns c

/-! ### Texts -/

/-- Is the code point in one of the spans? -/
def inSpans (spans : List (Nat × Nat)) (n : Nat) : Bool :=
  spans.any fun (first, last) => first ≤ n && n ≤ last

/-- Is the next character that is not skipped a letter with a case? -/
def casedFollows (cs : List Char) : Bool :=
  match cs.dropWhile (fun c => inSpans caseIgnorableSpans c.toNat) with
  | [] => false
  | c :: _ => inSpans casedSpans c.toNat

/-- Lower case of `cs`, where `before` are the characters in front of it, nearest first. -/
def lowerAfter (before : List Char) : List Char → List Char
  | [] => []
  | c :: cs =>
    let image :=
      if c = 'Σ' then
        if casedFollows before && !casedFollows cs then ['ς'] else ['σ']
      else lowerOf c
    image ++ lowerAfter (c :: before) cs

/-- A text in upper case. -/
def upper (s : String) : String :=
  String.ofList (s.toList.flatMap upperOf)

/-- A text in lower case. -/
def lower (s : String) : String :=
  String.ofList (lowerAfter [] s.toList)

/-- The characters with the first one in upper case. -/
def capitalizeChars : List Char → List Char
  | [] => []
  | c :: cs => upperOf c ++ cs

/-- The characters with the first one in lower case. -/
def decapitalizeChars : List Char → List Char
  | [] => []
  | c :: cs => lowerOf c ++ cs

/-- `bindTexture` for `BindTexture`. -/
def decapitalize (s : String) : String :=
  String.ofList (decapitalizeChars s.toList)

end GLBindings.Text
