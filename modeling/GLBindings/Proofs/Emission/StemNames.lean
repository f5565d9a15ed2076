import GLBindings.Proofs.Code.Fragment
import GLBindings.Proofs.Code.Naming
import GLBindings.Proofs.Emission.Agreement
import Mathlib

namespace GLBindings

open Fragment (rowsOf rowsOf_append)

/-!
# Stem names — what the code is called after

The name of the bindings stands in the three files for C++ as a directory, and in five names that are
made from it: two guards and two types, for which it is spelled in capitals and underscores, and a
function, for which it is taken as it is.  This file says where these stand, and when the compiler
takes them for names.

* `IsIdentifier` — the names of C; `isIdentifier_append` — how one is put together.
* `Stem.IsPlain` — stems of letters, digits, underscores and hyphens.
* `StemName`, `isIdentifier_spell`, `isIdentifier_loadFunction` — the five names, and which of them
  are names of C.
* `OpenRow`, `CHeader.openRows`, `CLoader.openRows`, `CppHeader.openRows` — the rows of the files with
  the stem left open; `rowsOf_cHeader`, `rowsOf_cLoader`, `rowsOf_cppHeader` — which are those of the
  code when it is filled in.
* `StemUses`, `stemUses` — all places where a name made from the stem stands.
* `preview_withStem` — the files for any stem, from the same open rows.
* `stemNames_spec` — where the stem stands in the files, and what its names are.
* `loadFunction_hyphen` — a stem whose load function is no name of C.
-/

/-! ### Names of C -/

/-- The words of C that cannot be names. -/
def cKeywords : List String := [
  "auto", "break", "case", "char", "const", "continue", "default", "do", "double", "else", "enum",
  "extern", "float", "for", "goto", "if", "inline", "int", "long", "register", "restrict", "return",
  "short", "signed", "sizeof", "static", "struct", "switch", "typedef", "union", "unsigned", "void",
  "volatile", "while", "_Alignas", "_Alignof", "_Atomic", "_Bool", "_Complex", "_Generic",
  "_Imaginary", "_Noreturn", "_Static_assert", "_Thread_local"]

/-- A letter or digit of ASCII, or an underscore. -/
def isWordChar (c : Char) : Bool :=
  c.isAlphanum || c == '_'

/-- A name of C: letters, digits and underscores, with no digit in front, but no word of C. -/
@[mk_iff]
structure IsIdentifier (s : String) : Prop where
  start : s.toList.head?.any (!Char.isDigit ·) = true
  chars : s.toList.all isWordChar = true
  notKeyword : s ∉ cKeywords

instance (s : String) : Decidable (IsIdentifier s) :=
  decidable_of_iff _ (isIdentifier_iff s).symm

/-- What begins like a name is one with something behind it that no word of C ends with. -/
theorem isIdentifier_append {s suffix : String} (hstart : s.toList.head?.any (!Char.isDigit ·) = true)
    (hs : s.toList.all isWordChar = true) (hsuffix : suffix.toList.all isWordChar = true)
    (hkeyword : ∀ word ∈ cKeywords, ¬ suffix.toList <:+ word.toList) :
    IsIdentifier (s ++ suffix) := by
  constructor
  case start =>
    rw [String.toList_append, List.head?_append]
    cases hhead : s.toList.head? with
    | none => simp [hhead] at hstart
    | some c => simpa [hhead] using hstart
  case chars => rw [String.toList_append, List.all_append, hs, hsuffix, Bool.and_true]
  case notKeyword =>
    -- a word of C does not end like this
    intro hword
    refine hkeyword _ hword ?_
    rw [String.toList_append]
    exact List.suffix_append _ _

/-! ### Letters of ASCII -/

section Letters

variable {c : Char}

/-- A letter of ASCII is no digit. -/
theorem isDigit_eq_false_of_isAlpha (h : c.isAlpha = true) : c.isDigit = false := by
  rw [Bool.eq_false_iff, ne_eq, Char.isDigit_iff_toNat]
  intro hdigit
  have hbounds : c.toNat ≤ 57 := hdigit.2
  rw [Char.isAlpha, Bool.or_eq_true, Naming.isUpper_iff_toNat, Char.isLower, Bool.and_eq_true,
    decide_eq_true_iff, decide_eq_true_iff] at h
  -- capitals and small letters both stand behind the digits
  rcases h with ⟨hlow, -⟩ | ⟨hlow, -⟩
  · omega
  · have hlow : 97 ≤ c.toNat := hlow
    omega

/-- A letter or digit is one in capitals too. -/
theorem isAlphanum_toUpper (h : c.isAlphanum = true) : c.toUpper.isAlphanum = true := by
  by_cases hlower : c.isLower = true
  · have hletter : c.toUpper.isAlpha = true := by
      rw [Char.isAlpha_toUpper_eq_isAlpha, Char.isAlpha, hlower, Bool.or_true]
    rw [Char.isAlphanum, hletter, Bool.true_or]
  · rwa [Char.toUpper_eq_of_not_isLower hlower]

/-- In capitals and underscores, every text consists of what names consist of. -/
theorem isWordChar_upperSnake (s : String) :
    (Naming.upperSnake s).toList.all isWordChar = true := by
  rw [Naming.upperSnake, String.toList_ofList, List.all_map, List.all_eq_true]
  intro d _
  show isWordChar (if Naming.isAsciiAlphanumeric d then d.toUpper else '_') = true
  -- each character is a letter or digit in capitals, or an underscore in place of it
  by_cases hd : d.isAlphanum = true
  · rw [Naming.isAsciiAlphanumeric, if_pos hd, isWordChar, isAlphanum_toUpper hd, Bool.true_or]
  · rw [Naming.isAsciiAlphanumeric, if_neg hd]
    rfl

end Letters

/-! ### Plain stems -/

namespace Stem

/-- A letter of ASCII, and behind it letters, digits, underscores and hyphens. -/
@[mk_iff]
structure IsPlain (s : Stem) : Prop where
  start : s.toList.head?.any Char.isAlpha = true
  chars : s.toList.all (fun c => isWordChar c || c == '-') = true

instance (s : Stem) : Decidable s.IsPlain :=
  decidable_of_iff _ (isPlain_iff s).symm

end Stem

/-- The names that are made from a stem. -/
inductive StemName where
  | headerGuard
  | wrapperGuard
  | procType
  | lookupType
  | loadFunction
  deriving Repr, DecidableEq

/-- How a name is spelled for a stem. -/
def StemName.spell (s : Stem) : StemName → String
  | headerGuard => s.headerGuard
  | wrapperGuard => s.wrapperGuard
  | procType => s.procType
  | lookupType => s.lookupType
  | loadFunction => s.loadFunction

section Plain

variable {s : Stem}

/-- In capitals a plain stem begins with a letter. -/
theorem head?_upperSnake (h : s.IsPlain) :
    (Naming.upperSnake s).toList.head?.any (!Char.isDigit ·) = true := by
  obtain ⟨c, hc, hletter⟩ := (Option.any_eq_true _ _).mp h.start
  -- the first letter is not replaced
  have halphanum : Naming.isAsciiAlphanumeric c = true := by
    rw [Naming.isAsciiAlphanumeric, Char.isAlphanum, hletter, Bool.true_or]
  have hupper : c.toUpper.isAlpha = true := by rwa [Char.isAlpha_toUpper_eq_isAlpha]
  rw [Naming.upperSnake, String.toList_ofList, List.head?_map, hc, Option.map_some, if_pos halphanum,
    Option.any_some, isDigit_eq_false_of_isAlpha hupper, Bool.not_false]

/-- The guards and types of a plain stem are names of C. -/
theorem isIdentifier_spell (h : s.IsPlain) {n : StemName} (hn : n ≠ .loadFunction) :
    IsIdentifier (n.spell s) := by
  -- all but the load function are made from the stem in capitals, each with its suffix
  have hupper (suffix : String) (hsuffix : suffix.toList.all isWordChar = true)
      (hkeyword : ∀ word ∈ cKeywords, ¬ suffix.toList <:+ word.toList) :
      IsIdentifier (Naming.upperSnake s ++ suffix) :=
    isIdentifier_append (head?_upperSnake h) (isWordChar_upperSnake s) hsuffix hkeyword
  cases n with
  | headerGuard => exact hupper "_GL_H" (by decide) (by decide +kernel)
  | wrapperGuard => exact hupper "_GL_HPP" (by decide) (by decide +kernel)
  | procType => exact hupper "_PROC" (by decide) (by decide +kernel)
  | lookupType => exact hupper "_GETPROCADDRESS" (by decide) (by decide +kernel)
  | loadFunction => exact absurd rfl hn

/-- The load function has the stem as it is, so a hyphen is left in it. -/
theorem isIdentifier_loadFunction (h : s.IsPlain) :
    IsIdentifier s.loadFunction ↔ '-' ∉ s.toList := by
  constructor
  · intro hname hhyphen
    have hmem : '-' ∈ s.loadFunction.toList := by
      rw [Stem.loadFunction, String.toList_append]
      exact List.mem_append_left _ hhyphen
    exact absurd (List.all_eq_true.mp hname.chars '-' hmem) (by decide)
  · intro hhyphen
    obtain ⟨c, hc, hletter⟩ := (Option.any_eq_true _ _).mp h.start
    have hstart : s.toList.head?.any (!Char.isDigit ·) = true := by
      rw [hc, Option.any_some, isDigit_eq_false_of_isAlpha hletter, Bool.not_false]
    -- without a hyphen a plain stem has nothing that a name may not have
    have hchars : s.toList.all isWordChar = true := by
      rw [List.all_eq_true]
      intro d hd
      have hd' := List.all_eq_true.mp h.chars d hd
      rw [Bool.or_eq_true, beq_iff_eq] at hd'
      exact hd'.resolve_right fun heq => hhyphen (heq ▸ hd)
    rw [Stem.loadFunction]
    exact isIdentifier_append hstart hchars (by decide) (by decide +kernel)

end Plain

example : IsIdentifier (Stem.loadFunction Stem.default) := by decide +kernel

/-! ### Code with the stem left open -/

/-- A piece of a line. -/
inductive Piece where
  /-- A text that does not depend on the stem. -/
  | text (s : String)
  /-- The stem as it is written, as a directory. -/
  | stem
  /-- A name made from the stem. -/
  | name (n : StemName)

instance : Coe String Piece := ⟨.text⟩

/-- The text of a piece. -/
def Piece.fill (s : Stem) : Piece → String
  | .text t => t
  | .stem => s
  | .name n => n.spell s

/-- The name that a piece is. -/
def Piece.name? : Piece → Option StemName
  | .name n => some n
  | _ => none

/-- A row of code with the stem left open. -/
inductive OpenRow where
  /-- A line that stands so many levels deep. -/
  | code (depth : Nat) (pieces : List Piece)
  /-- An empty line. -/
  | blank

namespace OpenRow

/-- The row for a stem. -/
def fill (s : Stem) : OpenRow → Row
  | .code depth pieces => .code depth (String.join (pieces.map (Piece.fill s)))
  | .blank => .blank

/-- The names made from the stem in a row. -/
def names : OpenRow → List StemName
  | .code _ pieces => pieces.filterMap Piece.name?
  | .blank => []

/-- A row that does not depend on the stem. -/
def ofRow : Row → OpenRow
  | .code depth s => .code depth [.text s]
  | .blank => .blank

/-- A line that is not indented. -/
def line (pieces : List Piece) : OpenRow := .code 0 pieces

/-- Code that does not depend on the stem. -/
def fixed (fs : List Fragment) : List OpenRow :=
  (rowsOf fs).map ofRow

/-- A row without a stem in it is the same for every stem. -/
theorem fill_ofRow (s : Stem) (r : Row) : (ofRow r).fill s = r := by
  cases r with
  | code depth t => simp [ofRow, fill, Piece.fill]
  | blank => rfl

/-- So is code without one. -/
theorem map_fill_fixed (s : Stem) (fs : List Fragment) : (fixed fs).map (fill s) = rowsOf fs := by
  rw [fixed, List.map_map]
  exact List.map_id'' (fill_ofRow s) _

/-- And no name in it is made from the stem. -/
theorem names_fixed (fs : List Fragment) : (fixed fs).flatMap names = [] := by
  rw [fixed, List.flatMap_map, List.flatMap_eq_nil_iff]
  intro r _
  cases r <;> rfl

end OpenRow

open OpenRow (line fixed)

/-- The load function with its parameter, as it is declared and as it is defined. -/
def loadSignaturePieces : List Piece :=
  ["void ", .name .loadFunction, "(", .name .lookupType, " getProcAddress)"]

namespace CHeader

/-- What the header declares besides the loader. -/
def declarations (h : CHeader) : List Fragment :=
  (section? "type definitions" (h.types.flatMap fun t => codeLines (Text.lines t)) h.types.isEmpty)
    ++ section? s!"{h.label} constants" (h.defines.flatMap Define.fragments) h.defines.isEmpty
    ++ section? s!"{h.label} commands" (h.pointers.flatMap Pointer.fragments) h.pointers.isEmpty

/-- The rows of the header, with the stem left open. -/
def openRows (h : CHeader) : List OpenRow :=
  [line ["#pragma once"], .blank, line ["#ifndef ", .name .headerGuard],
      line ["#define ", .name .headerGuard], .blank, line ["#if defined(__gl_h_) || defined(__GL_H__)"],
      line ["#error \"include <", .stem, "/gl.h> instead of the system OpenGL header\""],
      line ["#endif"], .blank, line ["#define __gl_h_"], line ["#define __GL_H__"], .blank]
    ++ fixed linkage
    ++ [line ["/* loader declarations */"], line ["typedef void (*", .name .procType, ")(void);"],
      line ["typedef ", .name .procType, " (*", .name .lookupType, ")(const char *name);"],
      line (.text "extern " :: loadSignaturePieces ++ [.text ";"])]
    ++ fixed h.declarations
    ++ [.blank, line ["#ifdef __cplusplus"], line ["\x7d"], line ["#endif"], .blank,
      line ["#endif /* ", .name .headerGuard, " */"]]

/-- The header for C is its open rows, filled in. -/
theorem rowsOf_cHeader (h : CHeader) :
    rowsOf h.fragments = h.openRows.map (OpenRow.fill h.stem) := by
  -- the stem stands in the opening, the loader declarations and the closing only
  have hfragments : h.fragments = h.opening ++ linkage ++ h.loader ++ h.declarations ++ h.closing := by
    simp only [fragments, declarations, List.append_assoc]
  rw [hfragments, openRows]
  simp only [rowsOf_append, List.map_append, OpenRow.map_fill_fixed]
  simp [opening, loader, closing, codeLines, rowsOf, Fragment.rows, line, OpenRow.fill, Piece.fill,
    StemName.spell, loadSignaturePieces, Stem.loadSignature, Stem.lookupParam, String.append_assoc, toString]

end CHeader

namespace CLoader

/-- The rows of the source, with the stem left open. -/
def openRows (l : CLoader) : List OpenRow :=
  [line ["#include <", .stem, "/gl.h>"], .blank] ++ fixed l.definitions
    ++ [line (loadSignaturePieces ++ [.text " \x7b"])]
    ++ fixed [.deeper (codeLines (l.pointers.map fun p => p.loadStatement Stem.lookupParam))]
    ++ [line ["\x7d"]]

/-- The loader is its open rows, filled in. -/
theorem rowsOf_cLoader (l : CLoader) :
    rowsOf l.fragments = l.openRows.map (OpenRow.fill l.stem) := by
  rw [fragments, openRows]
  simp only [rowsOf_append, List.map_append, OpenRow.map_fill_fixed]
  simp [loadFunction, rowsOf, Fragment.rows, line, OpenRow.fill, Piece.fill, StemName.spell,
    loadSignaturePieces, Stem.loadSignature, Stem.lookupParam, String.append_assoc, toString]

end CLoader

namespace CppHeader

/-- What the header declares. -/
def declarations (h : CppHeader) : List Fragment :=
  (section? s!"{h.label} enum groups" (spaced (h.classes.map EnumClass.fragments)) h.classes.isEmpty)
    ++ section? s!"{h.label} commands" (spaced (h.wrappers.map Wrapper.fragments)) h.wrappers.isEmpty

/-- The rows of the header, with the stem left open. -/
def openRows (h : CppHeader) : List OpenRow :=
  [line ["#pragma once"], .blank, line ["#ifndef ", .name .wrapperGuard],
      line ["#define ", .name .wrapperGuard], .blank, line ["#include <", .stem, "/gl.h>"], .blank,
      line ["namespace gl \x7b"]]
    ++ fixed h.declarations
    ++ [.blank, line ["\x7d // namespace gl"], .blank, line ["#endif /* ", .name .wrapperGuard, " */"]]

/-- The header for C++ is its open rows, filled in. -/
theorem rowsOf_cppHeader (h : CppHeader) :
    rowsOf h.fragments = h.openRows.map (OpenRow.fill h.stem) := by
  -- between opening and closing there is no stem
  have hfragments : h.fragments = h.opening ++ h.declarations ++ h.closing := by
    simp only [fragments, declarations, List.append_assoc]
  rw [hfragments, openRows]
  simp only [rowsOf_append, List.map_append, OpenRow.map_fill_fixed]
  simp [opening, closing, rowsOf, Fragment.rows, line, OpenRow.fill, Piece.fill, StemName.spell,
    String.append_assoc, toString]

end CppHeader

/-! ### Where the names stand -/

/-- All places where a name made from the stem stands, file by file from the top, and the places of
the load function: it is declared and defined with the same pieces. -/
structure StemUses (header loader wrapping : List OpenRow) : Prop where
  inHeader : header.flatMap OpenRow.names = [.headerGuard, .headerGuard, .procType, .procType,
    .lookupType, .loadFunction, .lookupType, .headerGuard]
  inLoader : loader.flatMap OpenRow.names = [.loadFunction, .lookupType]
  inWrapping : wrapping.flatMap OpenRow.names = [.wrapperGuard, .wrapperGuard, .wrapperGuard]
  declared : line (.text "extern " :: loadSignaturePieces ++ [.text ";"]) ∈ header
  defined : line (loadSignaturePieces ++ [.text " \x7b"]) ∈ loader

/-- **All uses of the stem** are where the open rows have them, whatever else the files declare. -/
theorem stemUses (h : CHeader) (l : CLoader) (w : CppHeader) :
    StemUses h.openRows l.openRows w.openRows := by
  constructor
  case inHeader =>
    simp only [CHeader.openRows, List.flatMap_append, OpenRow.names_fixed, List.append_nil]
    rfl
  case inLoader =>
    simp only [CLoader.openRows, List.flatMap_append, OpenRow.names_fixed, List.append_nil]
    rfl
  case inWrapping =>
    simp only [CppHeader.openRows, List.flatMap_append, OpenRow.names_fixed, List.append_nil]
    rfl
  case declared => simp [CHeader.openRows]
  case defined => simp [CLoader.openRows]

/-! ### The files for a stem -/

/-- The three files for C++, filled in for a stem. -/
def openPreviews (stem : Stem) (header loader wrapping : List OpenRow) : List Preview :=
  let file (segments : List String) (rows : List OpenRow) : Preview :=
    .of (.source segments (Row.texts .standard 0 (rows.map (OpenRow.fill stem))))
  [file ["include", stem, "gl.h"] header, file ["src", "gl.c"] loader,
    file ["include", stem, "gl.hpp"] wrapping]

/-- The stem makes no difference to what is looked up. -/
theorem preview_withStem {c : Context} {files : List Preview} (h : c.preview .cpp = .ok files) :
    ∃ (header : CHeader) (loader : CLoader) (wrapping : CppHeader), ∀ stem,
      (c.withStem stem).preview .cpp
        = .ok (openPreviews stem header.openRows loader.openRows wrapping.openRows) := by
  obtain ⟨header, loader, wrapping, hheader, hloader, hwrapping, -⟩ := preview_cpp_eq_ok.mp h
  refine ⟨header, loader, wrapping, fun stem => preview_cpp_eq_ok.mpr ?_⟩
  -- the look-ups do not know the stem; it is only put into what they give
  have hheader' : (c.withStem stem).cHeader = c.cHeader.map fun h => { h with stem := stem } := by
    simp only [Context.cHeader, map_bind]
    rfl
  have hloader' : (c.withStem stem).cLoader = c.cLoader.map fun l => { l with stem := stem } := by
    simp only [Context.cLoader, map_bind]
    rfl
  have hwrapping' : (c.withStem stem).cppHeader
      = c.cppHeader.map fun w => { w with stem := stem } := by
    simp only [Context.cppHeader, map_bind]
    rfl
  rw [hheader] at hheader'
  rw [hloader] at hloader'
  rw [hwrapping] at hwrapping'
  refine ⟨_, _, _, hheader', hloader', hwrapping', ?_⟩
  simp only [openPreviews, CHeader.file, CLoader.file, CppHeader.file, Builder.render_eq,
    CHeader.rowsOf_cHeader, CLoader.rowsOf_cLoader, CppHeader.rowsOf_cppHeader]
  rfl

/-- **Names made from the stem.**  In the files for C++ the stem stands in directories and in five
names, and nothing else depends on it; the load function is declared and defined with the same
parameter type.  For a plain stem the guards and types are names of C, and with the load function all
five are exactly when there is no hyphen in the stem. -/
theorem stemNames_spec {c : Context} {files : List Preview} (h : c.preview .cpp = .ok files) :
    ∃ header loader wrapping, StemUses header loader wrapping
      ∧ ∀ stem : Stem,
        (c.withStem stem).preview .cpp = .ok (openPreviews stem header loader wrapping)
        ∧ (stem.IsPlain → (∀ n, n ≠ StemName.loadFunction → IsIdentifier (n.spell stem))
          ∧ ((∀ n : StemName, IsIdentifier (n.spell stem)) ↔ '-' ∉ stem.toList)) := by
  obtain ⟨header, loader, wrapping, hfiles⟩ := preview_withStem h
  refine ⟨_, _, _, stemUses header loader wrapping, fun stem => ⟨hfiles stem, fun hplain => ?_⟩⟩
  -- only the load function depends on the hyphen
  have hothers : ∀ n, n ≠ StemName.loadFunction → IsIdentifier (n.spell stem) :=
    fun n => isIdentifier_spell hplain
  refine ⟨hothers, ?_⟩
  rw [← isIdentifier_loadFunction hplain]
  constructor
  · intro hall
    exact hall .loadFunction
  · intro hload n
    by_cases hn : n = .loadFunction
    · rw [hn]
      exact hload
    · exact hothers n hn

/-- For two commands and a stem with a hyphen the files are made, and their guards are names of C,
but not all five names are. -/
theorem stemNames_spec_hyphen : Stem.IsPlain "my-gl"
    ∧ (∃ header loader wrapping, StemUses header loader wrapping
      ∧ (sharingContext.withStem "my-gl").preview .cpp
        = .ok (openPreviews "my-gl" header loader wrapping))
    ∧ IsIdentifier (StemName.headerGuard.spell "my-gl")
    ∧ StemName.headerGuard.spell "my-gl" = "MY_GL_GL_H"
    ∧ ¬ ∀ n : StemName, IsIdentifier (n.spell "my-gl") := by
  have hplain : Stem.IsPlain "my-gl" := by decide
  obtain ⟨files, hpreview⟩ : ∃ files, sharingContext.preview .cpp = .ok files :=
    ⟨_, preview_cpp_eq_ok.mpr ⟨_, _, _, rfl, rfl, rfl, rfl⟩⟩
  obtain ⟨header, loader, wrapping, huses, hall⟩ := stemNames_spec hpreview
  obtain ⟨hfiles, hnames⟩ := hall "my-gl"
  obtain ⟨hguards, hyphen⟩ := hnames hplain
  refine ⟨hplain, ⟨header, loader, wrapping, huses, hfiles⟩, hguards .headerGuard (by decide),
    by decide, ?_⟩
  rw [hyphen]
  decide

/-- A stem with a hyphen is plain, and its load function is no name of C. -/
theorem loadFunction_hyphen : Stem.IsPlain "my-gl"
    ∧ Stem.loadFunction "my-gl" = "my-gl_load_functions"
    ∧ ¬ IsIdentifier (Stem.loadFunction "my-gl") := by
  have hplain : Stem.IsPlain "my-gl" := by decide
  refine ⟨hplain, by decide, ?_⟩
  rw [isIdentifier_loadFunction hplain]
  decide

end GLBindings
