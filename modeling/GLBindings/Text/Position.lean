import GLBindings.Text.Blank

namespace GLBindings.Text

/-!
# Text — positions

A place in a text is a row and a column for the reader and a byte offset for a program.

* `Place` — row and column.
* `Position` — the three together, moved over characters by `Position.advance`.
* `byteLength` — the size of characters in UTF-8.
* `byteOffset` — the offset of a row and a column, whatever they are.
-/

/-- The number of bytes of the characters in UTF-8. -/
def byteLength (cs : List Char) : Nat :=
  cs.foldr (fun c n => c.utf8Size + n) 0

/-- Where something is, as a reader counts. -/
structure Place where
  /-- Line, from one. -/
  row : Nat
  /-- Character within the line, from one. -/
  col : Nat
  deriving Repr, DecidableEq, Inhabited

instance : ToString Place := ⟨fun p => s!"{p.row}:{p.col}"⟩

/-- A stretch of bytes. -/
structure Span where
  /-- Bytes in front of the stretch. -/
  start : Nat
  /-- Bytes in the stretch. -/
  length : Nat
  deriving Repr, DecidableEq, Inhabited

/-- A place between two characters of a text. -/
structure Position where
  /-- Row and column of what follows. -/
  place : Place
  /-- Bytes in front of the place. -/
  offset : Nat
  deriving Repr, DecidableEq, Inhabited

namespace Position

/-- The start of a text. -/
def start : Position := ⟨⟨1, 1⟩, 0⟩

/-- The position behind one more character. -/
def step (p : Position) (c : Char) : Position :=
  if c = '\n' then ⟨⟨p.place.row + 1, 1⟩, p.offset + c.utf8Size⟩
  else ⟨⟨p.place.row, p.place.col + 1⟩, p.offset + c.utf8Size⟩

/-- The position behind more characters. -/
def advance (p : Position) (cs : List Char) : Position :=
  cs.foldl step p

end Position

/-- The byte offset of a row and a column, both from one. A column past its line counts as the
line's end, a row past the text as the text's end, and the result stays inside the text. -/
def byteOffset (src : String) (place : Place) : Nat :=
  let spans := lineSpans src.toList
  let lineStart := byteLength (spans.take (place.row - 1)).flatten
  let line := ((spans.drop (place.row - 1)).head?.map chomp).getD []
  min (lineStart + byteLength (line.take (place.col - 1))) (src.utf8ByteSize - 1)

end GLBindings.Text
