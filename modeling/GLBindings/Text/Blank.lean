namespace GLBindings.Text

/-!
# Text — white space, words and lines

All functions work on lists of characters; `trim` and `lines` are the forms for strings.

* `isBlank` — the White_Space property of the Unicode standard.
* `trimChars`, `trim` — a text without the white space around it.
* `splitAt` — the pieces between separators, one more than there are separators.
* `words` — the maximal runs without white space.
* `lineSpans`, `lines` — the lines of a text with and without what ends them.
-/

/-! ### White space -/

/-- White space in the sense of the Unicode standard. -/
def isBlank (c : Char) : Bool :=
  let n := c.toNat
  (9 ≤ n && n ≤ 13) || n == 0x20 || n == 0x85 || n == 0xA0 || n == 0x1680
    || (0x2000 ≤ n && n ≤ 0x200A) || n == 0x2028 || n == 0x2029 || n == 0x202F
    || n == 0x205F || n == 0x3000

/-- White space off both ends. -/
def trimChars (cs : List Char) : List Char :=
  ((cs.dropWhile isBlank).reverse.dropWhile isBlank).reverse

/-- White space off both ends. -/
def trim (s : String) : String :=
  String.ofList (trimChars s.toList)

/-! ### Splitting -/

/-- The pieces between the separators, empty ones included. -/
def splitAt (sep : Char → Bool) : List Char → List (List Char)
  | [] => [[]]
  | c :: cs =>
    if sep c then [] :: splitAt sep cs
    else
      match splitAt sep cs with
      | [] => [[c]]
      | piece :: pieces => (c :: piece) :: pieces

/-- There is always a piece, if only an empty one. -/
theorem splitAt_ne_nil (sep : Char → Bool) (cs : List Char) : splitAt sep cs ≠ [] := by
  cases cs with
  | nil => simp [splitAt]
  | cons c cs =>
    unfold splitAt
    split
    · simp
    · split <;> simp

/-- The non-empty pieces between the separators. -/
def runsBetween (sep : Char → Bool) (cs : List Char) : List (List Char) :=
  (splitAt sep cs).filter (· ≠ [])

/-- The maximal runs without white space. -/
def words (cs : List Char) : List (List Char) :=
  runsBetween isBlank cs

/-! ### Lines -/

/-- The lines with their line feeds; their concatenation is the text. -/
def lineSpans : List Char → List (List Char)
  | [] => []
  | c :: cs =>
    if c = '\n' then [c] :: lineSpans cs
    else
      match lineSpans cs with
      | [] => [[c]]
      | line :: rest => (c :: line) :: rest

/-- Cutting a text into lines loses nothing. -/
theorem lineSpans_flatten (cs : List Char) : (lineSpans cs).flatten = cs := by
  induction cs with
  | nil => rfl
  | cons c cs ih =>
    unfold lineSpans
    split
    · simp [ih]
    · split
      · next h => rw [h] at ih; simp at ih; simp [← ih]
      · next h => rw [h] at ih; simpa using ih

/-- A line without its line feed and without a carriage return in front of that. -/
def chomp (line : List Char) : List Char :=
  match line.reverse with
  | '\n' :: '\r' :: rest => rest.reverse
  | '\n' :: rest => rest.reverse
  | _ => line

/-- The lines of a text; a final line feed begins no further line. -/
def lines (s : String) : List String :=
  (lineSpans s.toList).map (String.ofList ∘ chomp)

end GLBindings.Text
