import GLBindings.Text.Blank

namespace GLBindings.Toml

/-!
# Toml — texts between quotation marks

Each function reads what follows the opening quotation marks and gives the text and what follows
the closing ones.

* `escape?` — the character that an escape stands for.
* `basic`, `multilineBasic` — texts between `"`, with escapes.
* `literal`, `multilineLiteral` — texts between apostrophes, without.
-/

/-- A text and what follows it. -/
abbrev Piece := Option (List Char × List Char)

/-- Puts a character in front of a text. -/
def Piece.cons (c : Char) (p : Piece) : Piece :=
  p.map fun (text, rest) => (c :: text, rest)

/-! ### Characters -/

/-- Can the character stand for itself in a line? -/
def isLineChar (c : Char) : Bool :=
  c == '\t' || (0x20 ≤ c.toNat && c.toNat ≠ 0x7F)

/-- A space or a tab. -/
def isSpace (c : Char) : Bool :=
  c == ' ' || c == '\t'

/-- Does a line feed follow, or a carriage return with a line feed? -/
def startsNewline : List Char → Bool
  | '\n' :: _ => true
  | '\r' :: '\n' :: _ => true
  | _ => false

/-- The text without a line end in front. -/
def dropNewline : List Char → List Char
  | '\n' :: cs => cs
  | '\r' :: '\n' :: cs => cs
  | cs => cs

/-! ### Escapes -/

/-- The value of a digit of base sixteen. -/
def hexValue? (c : Char) : Option Nat :=
  if c.isDigit then some (c.toNat - '0'.toNat)
  else if 'a' ≤ c && c ≤ 'f' then some (c.toNat - 'a'.toNat + 10)
  else if 'A' ≤ c && c ≤ 'F' then some (c.toNat - 'A'.toNat + 10)
  else none

/-- The character with a number in base sixteen, written with so many digits. -/
def codeChar? (width : Nat) (cs : List Char) : Option Char :=
  match (cs.take width).mapM hexValue? with
  | none => none
  | some digits =>
    let n := digits.foldl (fun n d => 16 * n + d) 0
    if digits.length = width && n.isValidChar then some (Char.ofNat n) else none

/-- The character that the escape behind a backslash stands for, and the length of the escape. -/
def escape? : List Char → Option (Char × Nat)
  | 'b' :: _ => some ('\x08', 1)
  | 'e' :: _ => some ('\x1b', 1)
  | 't' :: _ => some ('\t', 1)
  | 'n' :: _ => some ('\n', 1)
  | 'f' :: _ => some ('\x0c', 1)
  | 'r' :: _ => some ('\r', 1)
  | '"' :: _ => some ('"', 1)
  | '\\' :: _ => some ('\\', 1)
  | 'x' :: cs => (codeChar? 2 cs).map (·, 3)
  | 'u' :: cs => (codeChar? 4 cs).map (·, 5)
  | 'U' :: cs => (codeChar? 8 cs).map (·, 9)
  | _ => none

/-! ### One line -/

/-- The text up to a quotation mark. -/
def basic (cs : List Char) : Piece :=
  match cs with
  | [] => none
  | '"' :: rest => some ([], rest)
  | '\\' :: rest =>
    match escape? rest with
    | some (c, width) => Piece.cons c (basic (rest.drop width))
    | none => none
  | c :: rest => if isLineChar c then Piece.cons c (basic rest) else none
termination_by cs.length
decreasing_by all_goals simp only [List.length_drop, List.length_cons]; omega

/-- The text up to an apostrophe. -/
def literal : List Char → Piece
  | [] => none
  | '\'' :: rest => some ([], rest)
  | c :: rest => if isLineChar c then Piece.cons c (literal rest) else none

/-! ### Several lines -/

/-- The end of a text over several lines: three marks, with at most two in front that belong to
the text. -/
def closing? (mark : Char) (cs : List Char) : Piece :=
  match (cs.takeWhile (· == mark)).length with
  | 0 | 1 | 2 => none
  | 3 => some ([], cs.drop 3)
  | 4 => some ([mark], cs.drop 4)
  | _ => some ([mark, mark], cs.drop 5)

/-- Is the character in front part of the text? A carriage return is only in front of a line
feed. -/
def isContent (c : Char) (rest : List Char) : Bool :=
  isLineChar c || c == '\n' || (c == '\r' && rest.head? == some '\n')

/-- Does a backslash in front of `cs` join lines? -/
def joinsLines (cs : List Char) : Bool :=
  startsNewline (cs.dropWhile isSpace)

/-- The text up to three quotation marks. After a backslash at the end of a line white space is
skipped. -/
def multilineBasic (skipping : Bool) (cs : List Char) : Piece :=
  match cs with
  | [] => none
  | c :: rest =>
    if skipping && (isSpace c || c == '\n' || (c == '\r' && rest.head? == some '\n')) then
      multilineBasic true rest
    else
      match closing? '"' (c :: rest) with
      | some piece => some piece
      | none =>
        if c = '\\' then
          if joinsLines rest then multilineBasic true rest
          else
            match escape? rest with
            | some (d, width) => Piece.cons d (multilineBasic false (rest.drop width))
            | none => none
        else if isContent c rest then Piece.cons c (multilineBasic false rest)
        else none
termination_by cs.length
decreasing_by all_goals simp only [List.length_drop, List.length_cons]; omega

/-- The text up to three apostrophes. -/
def multilineLiteral : List Char → Piece
  | [] => none
  | c :: rest =>
    match closing? '\'' (c :: rest) with
    | some piece => some piece
    | none => if isContent c rest then Piece.cons c (multilineLiteral rest) else none

end GLBindings.Toml
