import GLBindings.Code.Fragment
import Mathlib.Data.String.Basic

namespace GLBindings

/-!
# Fragments — what a builder makes of nested code

A builder goes in and out while it writes.  Its text can be told without it: fragments come to rows,
each with the depth that its nesting gives it, and a row is indented by that and by the level that
the builder had at the start.

* `Row`, `Row.text` — a line at a depth, and its text for a builder at some level.
* `Fragment.rows`, `Fragment.rowsOf` — the rows of nested code.
* `Builder.applyAll_eq` — a builder adds the text of the rows and comes back to its level.
* `Builder.render_eq` — so rendered code is the text of its rows.
* `Builder.emit_spec` — that, and which ways of writing are the same.
-/

/-! ### Rows -/

/-- A line of code. -/
inductive Row where
  /-- A line that stands so many levels deep. -/
  | code (depth : Nat) (text : String)
  /-- An empty line, which stands nowhere. -/
  | blank
  deriving DecidableEq

namespace Row

/-- One level deeper. -/
def deeper : Row → Row
  | .code depth s => .code (depth + 1) s
  | .blank => .blank

/-- The text of a row, with its line feed: the unit is repeated for the level that the code starts
at and for the depth of the row. -/
def text (indent : Indent) (level : Nat) : Row → String
  | .code depth s => String.join (List.replicate (level + depth) indent.text) ++ s ++ "\n"
  | .blank => "\n"

/-- The text of several rows. -/
def texts (indent : Indent) (level : Nat) (rows : List Row) : String :=
  String.join (rows.map (text indent level))

section Texts

variable (indent : Indent) (level : Nat)

theorem texts_nil : texts indent level [] = "" :=
  String.join_nil

/-- The texts of rows stand one behind the other. -/
theorem texts_cons (r : Row) (rows : List Row) :
    texts indent level (r :: rows) = r.text indent level ++ texts indent level rows := by
  rw [texts, List.map_cons, String.join_cons]
  rfl

/-- So do the texts of parts. -/
theorem texts_append (rows more : List Row) :
    texts indent level (rows ++ more) = texts indent level rows ++ texts indent level more := by
  rw [texts, List.map_append, String.join_append]
  rfl

/-- It is the same to stand deeper and to start at a higher level. -/
theorem text_deeper (r : Row) : r.deeper.text indent level = r.text indent (level + 1) := by
  cases r with
  | code depth s =>
    have hlevel : level + (depth + 1) = level + 1 + depth := by omega
    rw [deeper, text, text, hlevel]
  | blank => rfl

/-- A whole body may stand deeper, or start at a higher level. -/
theorem texts_deeper (rows : List Row) :
    texts indent level (rows.map deeper) = texts indent (level + 1) rows := by
  rw [texts, List.map_map]
  exact congrArg String.join (List.map_congr_left fun r _ => text_deeper indent level r)

end Texts

end Row

namespace Fragment

mutual

/-- The rows of a fragment. -/
def rows : Fragment → List Row
  | .line s => [.code 0 s]
  | .blank => [.blank]
  | .block header body close =>
    .code 0 header :: ((rowsOf body).map .deeper ++ (close.map (.code 0)).toList)
  | .deeper body => (rowsOf body).map .deeper
  | .comment s => [.code 0 ("/* " ++ s ++ " */")]

/-- The rows of fragments in order. -/
def rowsOf : List Fragment → List Row
  | [] => []
  | f :: fs => f.rows ++ rowsOf fs

end

/-- The rows of fragments are those of each in turn. -/
theorem rowsOf_eq_flatMap (fs : List Fragment) : rowsOf fs = fs.flatMap rows := by
  induction fs with
  | nil => rfl
  | cons f fs ih => rw [rowsOf, ih, List.flatMap_cons]

/-- Rows do not depend on how code is cut into parts. -/
theorem rowsOf_append (fs gs : List Fragment) : rowsOf (fs ++ gs) = rowsOf fs ++ rowsOf gs := by
  simp only [rowsOf_eq_flatMap, List.flatMap_append]

end Fragment

/-! ### Builders -/

namespace Builder

open Fragment

variable (b : Builder)

/-- Writes what is already a text. -/
def write (s : String) : Builder :=
  { b with text := b.text ++ s }

/-- The margin is the unit, as often as there are levels. -/
theorem margin_eq (indent : Indent) (n : Nat) :
    margin indent n = String.join (List.replicate n indent.text) := by
  induction n with
  | zero => rfl
  | succ n ih => rw [margin, ih, List.replicate_succ, String.join_cons]

/-- A line is written as one row of code. -/
theorem line_eq (s : String) : b.line s = b.write (Row.texts b.indent b.level [.code 0 s]) := by
  rw [Row.texts_cons, Row.texts_nil, String.append_empty, Row.text, Nat.add_zero, ← margin_eq]
  simp only [line, write, String.append_assoc]

/-- An empty line is written as a row without a margin. -/
theorem blank_eq : b.blank = b.write (Row.texts b.indent b.level [.blank]) := by
  rw [Row.texts_cons, Row.texts_nil, String.append_empty]
  rfl

/-- What is written one level deeper, in between going there and coming back. -/
theorem dedent_write_deepen (rows : List Row) :
    (b.deepen.write (Row.texts b.indent (b.level + 1) rows)).dedent
      = b.write (Row.texts b.indent b.level (rows.map .deeper)) := by
  -- the level is one more than it was, so there is a level to come back from
  have hback : b.level + 1 - 1 = b.level := Nat.add_sub_cancel b.level 1
  rw [Row.texts_deeper, dedent, deepen, write, write, hback]

/-- Rows that are written one after the other are written as one. -/
theorem write_write (rows more : List Row) :
    (b.write (Row.texts b.indent b.level rows)).write (Row.texts b.indent b.level more)
      = b.write (Row.texts b.indent b.level (rows ++ more)) := by
  rw [Row.texts_append]
  simp only [write, String.append_assoc]

mutual

/-- **One fragment.**  Its rows are written, and the level is what it was. -/
theorem apply_eq (b : Builder) (f : Fragment) :
    b.apply f = b.write (Row.texts b.indent b.level f.rows) := by
  cases f with
  | line s =>
    rw [apply, rows]
    exact line_eq b s
  | blank =>
    rw [apply, rows]
    exact blank_eq b
  | block header body close =>
    -- header and body leave the builder at its level, whether there is a closing line or not
    have hbody : (applyAll (b.line header).deepen body).dedent
        = b.write (Row.texts b.indent b.level (.code 0 header :: (rowsOf body).map .deeper)) := by
      rw [applyAll_eq (b.line header).deepen body]
      refine (dedent_write_deepen (b.line header) (rowsOf body)).trans ?_
      rw [line_eq]
      exact write_write b [.code 0 header] _
    -- the closing line stands behind these rows, as deep as the header
    rw [rows, ← List.cons_append]
    cases close with
    | some s =>
      simp only [apply]
      rw [hbody, line_eq]
      exact write_write b _ [.code 0 s]
    | none =>
      simp only [apply]
      rw [hbody]
      exact congrArg (fun rows => b.write (Row.texts b.indent b.level rows)) (List.append_nil _).symm
  | deeper body =>
    rw [apply, rows, applyAll_eq b.deepen body]
    exact dedent_write_deepen b (rowsOf body)
  | comment s =>
    rw [apply, rows]
    exact line_eq b _

/-- **Fragments in order.** -/
theorem applyAll_eq (b : Builder) (fs : List Fragment) :
    b.applyAll fs = b.write (Row.texts b.indent b.level (rowsOf fs)) := by
  cases fs with
  | nil =>
    rw [applyAll, rowsOf, Row.texts_nil, write, String.append_empty]
  | cons f fs =>
    rw [applyAll, rowsOf, apply_eq b f, applyAll_eq _ fs]
    exact write_write b f.rows (rowsOf fs)

end

/-! ### Ways of writing -/

/-- What a builder adds for fragments is the text of their rows. -/
theorem emit_eq (fs : List Fragment) :
    b.emit fs = b.write (Row.texts b.indent b.level (rowsOf fs)) :=
  applyAll_eq b fs

/-- Rendered code is the text of its rows. -/
theorem render_eq (fs : List Fragment) : Fragment.render fs = Row.texts .standard 0 (rowsOf fs) := by
  rw [Fragment.render, emit_eq]
  exact String.empty_append

/-- Fragments with the same rows are written the same. -/
theorem emit_congr {fs gs : List Fragment} (h : rowsOf fs = rowsOf gs) : b.emit fs = b.emit gs := by
  rw [emit_eq, emit_eq, h]

/-- Code can be written in two parts. -/
theorem emit_append (fs gs : List Fragment) : b.emit (fs ++ gs) = (b.emit fs).emit gs := by
  rw [emit_eq b, emit_eq b, emit_eq, rowsOf_append]
  exact (write_write b _ _).symm

/-- And in any number of parts. -/
theorem emit_flatten (parts : List (List Fragment)) :
    b.emit parts.flatten = parts.foldl emit b := by
  induction parts generalizing b with
  | nil => rfl
  | cons fs parts ih => rw [List.flatten_cons, emit_append, ih, List.foldl_cons]

/-- What is made of items one by one is written as one. -/
theorem emit_flatMap {α : Type} (items : List α) (f : α → List Fragment) :
    b.emit (items.flatMap f) = b.each items fun b a => b.emit (f a) := by
  -- every item is a part
  rw [List.flatMap, emit_flatten, List.foldl_map]
  rfl

/-- A block is a header line, a deeper body, and a closing line if there is one. -/
theorem emit_block (header : String) (body : List Fragment) (close : Option String) :
    b.emit [.block header body close]
      = b.emit (.line header :: .deeper body :: (close.map .line).toList) := by
  refine emit_congr b ?_
  cases close with
  | some s => simp [rowsOf, rows]
  | none => simp [rowsOf, rows]

/-- A block around anything written one after the other is the block of all of it. -/
theorem blockWith_foldl_emit (header close : String) (parts : List (List Fragment)) :
    b.blockWith header close (fun inner => parts.foldl emit inner)
      = b.emit [.block header parts.flatten (some close)] := by
  -- what a block does with its body is what is done by hand on the left
  have hblock : b.emit [.block header parts.flatten (some close)]
      = ((applyAll (b.line header).deepen parts.flatten).dedent).line close := by
    simp only [emit, applyAll, apply]
  rw [hblock, blockWith]
  exact congrArg (fun inner : Builder => inner.dedent.line close) (emit_flatten _ parts).symm

/-- **Writing nested code.**  Whatever a builder has written and at whatever level it stands, it
comes back to that level, and it adds the rows of the code: each line, comment, header and close with
the unit for the level and for its own depth, and an empty line as nothing but a line feed.  So code
can be written in parts, item by item, and block by block. -/
theorem emit_spec (b : Builder) :
    (∀ fs : List Fragment, b.emit fs
      = ⟨b.level, b.indent, b.text ++ Row.texts b.indent b.level (rowsOf fs)⟩)
    ∧ (∀ fs gs : List Fragment, b.emit (fs ++ gs) = (b.emit fs).emit gs)
    ∧ (∀ parts : List (List Fragment), b.emit parts.flatten = parts.foldl emit b)
    ∧ (∀ (α : Type) (items : List α) (f : α → List Fragment),
        b.emit (items.flatMap f) = b.each items fun b a => b.emit (f a))
    ∧ (∀ (header : String) (body : List Fragment) (close : Option String),
        b.emit [.block header body close]
          = b.emit (.line header :: .deeper body :: (close.map .line).toList))
    ∧ ∀ (header close : String) (parts : List (List Fragment)),
        b.blockWith header close (fun inner => parts.foldl emit inner)
          = b.emit [.block header parts.flatten (some close)] :=
  ⟨emit_eq b, emit_append b, emit_flatten b, fun _ => emit_flatMap b, emit_block b,
    blockWith_foldl_emit b⟩

end Builder

end GLBindings
