import GLBindings.Emission.Files
import GLBindings.Proofs.Code.Fragment

namespace GLBindings

open Fragment (rowsOf rowsOf_append)

/-!
# Layout — the rows of generated files

A generated file is a banner and rows of code.  This file spells out the rows in which declarations
stand: what is written for one declaration, and in what order they come.

* `fileText` — what a file with some rows holds.
* `titled` — rows under a title.
* `Define.row`, `Pointer.headerRows`, `Pointer.definitionRow`, `Pointer.loadRow`, `EnumClass.rows`,
  `Wrapper.rows` — the rows of one declaration.
* `CHeader.rows`, `CLoader.rows`, `CppHeader.rows` — the rows of the files.
* `CHeader.content_file`, `CLoader.content_file`, `CppHeader.content_file` — what the files hold.
-/

/-! ### Rows of a file -/

/-- What a generated file holds: the banner on a line of its own, and rows indented by four spaces. -/
def fileText (rows : List Row) : String :=
  "/* Generated by glgen. DO NOT EDIT. */\n" ++ Row.texts (.spaces 4) 0 rows

/-- The text behind the usual banner is the text of the rows of the code. -/
theorem content_source (segments : List String) (fs : List Fragment) :
    (GeneratedFile.source segments (Fragment.render fs)).content = fileText (rowsOf fs) := by
  -- the banner is a text of its own in every file
  have hbanner : banner ++ "\n" = "/* Generated by glgen. DO NOT EDIT. */\n" := by decide
  show banner ++ "\n" ++ Fragment.render fs = _
  rw [hbanner, Builder.render_eq]
  rfl

/-- Rows under a title with an empty line in front, unless there is nothing to declare. -/
def titled (title : String) (isEmpty : Bool) (rows : List Row) : List Row :=
  if isEmpty then [] else .blank :: .code 0 ("/* " ++ title ++ " */") :: rows

/-- A section comes to its rows under its title. -/
theorem rowsOf_section (title : String) (body : List Fragment) (isEmpty : Bool) :
    rowsOf (section? title body isEmpty) = titled title isEmpty (rowsOf body) := by
  cases isEmpty with
  | true => rfl
  | false => rfl

/-- Lines of code are rows that are not indented. -/
theorem rowsOf_codeLines (lines : List String) : rowsOf (codeLines lines) = lines.map (.code 0) := by
  rw [Fragment.rowsOf_eq_flatMap, codeLines, List.flatMap_map, List.map_eq_flatMap]
  rfl

/-- What is written for items one by one has the rows of each in turn. -/
theorem rowsOf_flatMap {α : Type} {write : α → List Fragment} {rows : α → List Row}
    (h : ∀ a, rowsOf (write a) = rows a) (items : List α) :
    rowsOf (items.flatMap write) = items.flatMap rows := by
  induction items with
  | nil => rfl
  | cons a items ih => rw [List.flatMap_cons, rowsOf_append, h, ih, List.flatMap_cons]

/-- The same with an empty line between any two. -/
theorem rowsOf_spaced {α : Type} {write : α → List Fragment} {rows : α → List Row}
    (h : ∀ a, rowsOf (write a) = rows a) (items : List α) :
    rowsOf (spaced (items.map write)) = [Row.blank].intercalate (items.map rows) := by
  unfold spaced
  induction items with
  | nil => rfl
  | cons a items ih =>
    cases items with
    | nil =>
      simp only [List.map_cons, List.map_nil, List.intercalate_singleton]
      exact h a
    | cons b items =>
      simp only [List.map_cons, List.intercalate_cons_cons] at ih ⊢
      rw [rowsOf_append, rowsOf_append, h, ih]
      rfl

/-! ### Rows of a declaration -/

/-- The row of a macro. -/
def Define.row (d : Define) : Row :=
  .code 0 ("#define " ++ d.name ++ " " ++ d.value)

/-- A macro is written as one row. -/
theorem Define.rowsOf_fragments (d : Define) : rowsOf d.fragments = [d.row] :=
  rfl

namespace Pointer

/-- The type of the pointer to a command. -/
def procName (p : Pointer) : String :=
  "PFN" ++ Text.upper p.name ++ "PROC"

/-- In the header, the type with its return type and its parameters, and the variable. -/
def headerRows (p : Pointer) : List Row :=
  [.code 0 ("typedef GLAPI " ++ p.returnType ++ " (GLCALLCONV *" ++ p.procName ++ ")("
      ++ (if p.params.isEmpty then "void" else ", ".intercalate p.params) ++ ");"),
    .code 0 ("extern " ++ p.procName ++ " " ++ p.name ++ ";")]

/-- In the loader, the variable again. -/
def definitionRow (p : Pointer) : Row :=
  .code 0 (p.procName ++ " " ++ p.name ++ ";")

/-- In the function that loads all commands, the value of the variable. -/
def loadRow (p : Pointer) : Row :=
  .code 1 (p.name ++ " = (" ++ p.procName ++ ")" ++ "getProcAddress" ++ "(\"" ++ p.name ++ "\");")

/-- A pointer is declared in two rows. -/
theorem rowsOf_fragments (p : Pointer) : rowsOf p.fragments = p.headerRows :=
  rfl

end Pointer

/-- An enumeration with its base type, and a row for each name with its value. -/
def EnumClass.rows (e : EnumClass) : List Row :=
  .code 0 ("enum class " ++ e.name ++ " : " ++ e.base ++ " \x7b")
    :: (e.enumerators.map fun v => .code 1 (v.name ++ " = " ++ v.value ++ ","))
    ++ [.code 0 "\x7d;"]

/-- The enumerators stand one level deeper than the enumeration. -/
theorem EnumClass.rowsOf_fragments (e : EnumClass) : rowsOf e.fragments = e.rows := by
  -- inside the braces there is a row for each enumerator, not indented yet
  have hbody : rowsOf (e.enumerators.map enumeratorLine)
      = e.enumerators.map fun v => .code 0 (v.name ++ " = " ++ v.value ++ ",") := by
    rw [Fragment.rowsOf_eq_flatMap, List.flatMap_map, List.map_eq_flatMap]
    rfl
  simp only [fragments, rowsOf, Fragment.rows, hbody, List.map_map, List.append_nil]
  rfl

/-- An inline function around the call of its command. -/
def Wrapper.rows (w : Wrapper) : List Row :=
  [.code 0 ("inline " ++ w.returnType ++ " " ++ w.name ++ "("
      ++ ", ".intercalate (w.params.map WrapperParam.declaration) ++ ") \x7b"),
    .code 1 ((if w.returnType = "void" then "" else "return ") ++ w.command ++ "("
      ++ ", ".intercalate (w.params.map WrapperParam.argument) ++ ");"),
    .code 0 "\x7d"]

/-- The call stands one level deeper, behind `return` unless the command returns nothing. -/
theorem Wrapper.rowsOf_fragments (w : Wrapper) : rowsOf w.fragments = w.rows := by
  -- the call is one text, with or without `return` in front
  have hcall : w.call = (if w.returnType = "void" then "" else "return ") ++ w.command ++ "("
      ++ ", ".intercalate (w.params.map WrapperParam.argument) ++ ");" := by
    by_cases hvoid : w.returnType = "void"
    · rw [call, if_pos hvoid, if_pos hvoid, String.empty_append]
      rfl
    · rw [call, if_neg hvoid, if_neg hvoid]
      simp only [String.append_assoc]
      rfl
  rw [rows, ← hcall]
  rfl

/-! ### Rows of the files -/

/-- The rows of the header for C: types, macros and pointers stand in sections of their own, behind
the declarations of the loader. -/
def CHeader.rows (h : CHeader) : List Row :=
  rowsOf (h.opening ++ linkage ++ h.loader)
    ++ titled "type definitions" h.types.isEmpty ((h.types.flatMap Text.lines).map (.code 0))
    ++ titled (h.label ++ " constants") h.defines.isEmpty (h.defines.map Define.row)
    ++ titled (h.label ++ " commands") h.pointers.isEmpty (h.pointers.flatMap Pointer.headerRows)
    ++ rowsOf h.closing

/-- **The header for C** holds its rows. -/
theorem CHeader.content_file (h : CHeader) : h.file.content = fileText h.rows := by
  have htypes : rowsOf (h.types.flatMap fun t => codeLines (Text.lines t))
      = (h.types.flatMap Text.lines).map (.code 0) := by
    rw [rowsOf_flatMap fun t => rowsOf_codeLines (Text.lines t), List.map_flatMap]
  have hdefines : rowsOf (h.defines.flatMap Define.fragments) = h.defines.map Define.row := by
    rw [rowsOf_flatMap Define.rowsOf_fragments, List.map_eq_flatMap]
  have hpointers : rowsOf (h.pointers.flatMap Pointer.fragments)
      = h.pointers.flatMap Pointer.headerRows := rowsOf_flatMap Pointer.rowsOf_fragments _
  -- section by section, each of rows that are known
  refine (content_source _ _).trans (congrArg fileText ?_)
  rw [fragments, rows]
  simp only [rowsOf_append, rowsOf_section, htypes, hdefines, hpointers]
  rfl

/-- The rows of the loader: each pointer is defined, and then loaded in the body of one function. -/
def CLoader.rows (l : CLoader) : List Row :=
  [.code 0 ("#include <" ++ l.stem ++ "/gl.h>"), .blank]
    ++ (if l.pointers.isEmpty then [] else l.pointers.map Pointer.definitionRow ++ [.blank])
    ++ .code 0 (l.stem.loadSignature ++ " \x7b") :: l.pointers.map Pointer.loadRow
    ++ [.code 0 "\x7d"]

/-- **The loader** holds its rows: what it defines and what it loads are the same pointers in the
same order. -/
theorem CLoader.content_file (l : CLoader) : l.file.content = fileText l.rows := by
  have hdefinitions : rowsOf l.definitions
      = if l.pointers.isEmpty then [] else l.pointers.map Pointer.definitionRow ++ [.blank] := by
    rw [definitions]
    cases l.pointers.isEmpty with
    | true => rfl
    | false =>
      show rowsOf (codeLines _ ++ [.blank]) = _
      rw [rowsOf_append, rowsOf_codeLines, List.map_map]
      rfl
  -- the statements are rows of a body, and so one level deeper
  have hbody : (rowsOf (codeLines (l.pointers.map fun p => p.loadStatement Stem.lookupParam))).map
      Row.deeper = l.pointers.map Pointer.loadRow := by
    rw [rowsOf_codeLines, List.map_map, List.map_map]
    rfl
  refine (content_source _ _).trans (congrArg fileText ?_)
  rw [fragments, rows]
  simp only [rowsOf_append, hdefinitions, loadFunction, rowsOf, Fragment.rows, hbody,
    List.append_assoc, List.append_nil, List.cons_append, List.nil_append]
  rfl

/-- The rows of the header for C++: enumerations and inline functions stand in sections of their own
in a namespace. -/
def CppHeader.rows (h : CppHeader) : List Row :=
  rowsOf h.opening
    ++ titled (h.label ++ " enum groups") h.classes.isEmpty
      ([Row.blank].intercalate (h.classes.map EnumClass.rows))
    ++ titled (h.label ++ " commands") h.wrappers.isEmpty
      ([Row.blank].intercalate (h.wrappers.map Wrapper.rows))
    ++ rowsOf h.closing

/-- **The header for C++** holds its rows. -/
theorem CppHeader.content_file (h : CppHeader) : h.file.content = fileText h.rows := by
  refine (content_source _ _).trans (congrArg fileText ?_)
  rw [fragments, rows]
  simp only [rowsOf_append, rowsOf_section, rowsOf_spaced EnumClass.rowsOf_fragments,
    rowsOf_spaced Wrapper.rowsOf_fragments]
  rfl

end GLBindings
