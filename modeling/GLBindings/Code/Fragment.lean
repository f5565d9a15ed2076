namespace GLBindings

/-!
# Code — fragments of indented code

* `Indent` — what one level of indentation is.
* `Fragment` — code as a tree: lines, and fragments that stand deeper.
* `Builder` — text that grows line by line at a level of indentation.
* `Builder.emit` — adds fragments, and leaves the level as it was.
-/

/-- What one level of indentation is. -/
inductive Indent where
  /-- So many spaces; only widths of two, four and eight are in use. -/
  | spaces (width : Nat)
  | tab
  deriving Repr, DecidableEq

namespace Indent

/-- Four spaces. -/
def standard : Indent := .spaces 4

/-- The text of one level; a width that is not in use counts as four. -/
def text : Indent → String
  | .spaces 2 => "  "
  | .spaces 8 => "        "
  | .spaces _ => "    "
  | .tab => "\t"

end Indent

/-- Code that is still to be indented. -/
inductive Fragment where
  /-- A line. -/
  | line (text : String)
  /-- An empty line, which is not indented. -/
  | blank
  /-- A header line, a body one level deeper, and a closing line if there is one. -/
  | block (header : String) (body : List Fragment) (close : Option String)
  /-- Fragments one level deeper. -/
  | deeper (body : List Fragment)
  /-- A comment on a line of its own. -/
  | comment (text : String)
  deriving Repr, Inhabited

/-- Code that has been written so far. -/
structure Builder where
  /-- How deep the next line stands. -/
  level : Nat
  /-- What one level is. -/
  indent : Indent
  /-- The text so far. -/
  text : String
  deriving Repr, DecidableEq

namespace Builder

/-- Nothing written yet. -/
def new (indent : Indent) : Builder := ⟨0, indent, ""⟩

/-! ### Lines -/

/-- Some levels of indentation. -/
def margin (indent : Indent) : Nat → String
  | 0 => ""
  | n + 1 => indent.text ++ margin indent n

/-- Writes a line. -/
def line (b : Builder) (s : String) : Builder :=
  { b with text := b.text ++ margin b.indent b.level ++ s ++ "\n" }

/-- Writes an empty line. -/
def blank (b : Builder) : Builder :=
  { b with text := b.text ++ "\n" }

/-- Writes a comment on a line of its own. -/
def comment (b : Builder) (s : String) : Builder :=
  b.line s!"/* {s} */"

/-! ### Levels -/

/-- Goes one level deeper. -/
def deepen (b : Builder) : Builder :=
  { b with level := b.level + 1 }

/-- Comes back one level; at the outermost nothing changes. -/
def dedent (b : Builder) : Builder :=
  { b with level := b.level - 1 }

/-- A header line, what `body` writes one level deeper, and a closing line. -/
def blockWith (b : Builder) (header close : String) (body : Builder → Builder) : Builder :=
  (body (b.line header).deepen).dedent.line close

/-- Writes what `write` makes of each item. -/
def each {α : Type} (b : Builder) (items : List α) (write : Builder → α → Builder) : Builder :=
  items.foldl write b

/-! ### Fragments -/

mutual

/-- Writes a fragment. -/
def apply (b : Builder) : Fragment → Builder
  | .line s => b.line s
  | .blank => b.blank
  | .block header body close =>
    let inner := (applyAll (b.line header).deepen body).dedent
    match close with
    | some s => inner.line s
    | none => inner
  | .deeper body => (applyAll b.deepen body).dedent
  | .comment s => b.comment s

/-- Writes fragments in order. -/
def applyAll (b : Builder) : List Fragment → Builder
  | [] => b
  | f :: fs => applyAll (apply b f) fs

end

/-- Writes fragments in order. -/
def emit (b : Builder) (fragments : List Fragment) : Builder :=
  b.applyAll fragments

end Builder

/-- The text of fragments, indented by four spaces. -/
def Fragment.render (fragments : List Fragment) : String :=
  ((Builder.new .standard).emit fragments).text

end GLBindings
