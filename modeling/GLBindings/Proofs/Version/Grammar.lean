import GLBindings.Proofs.Text
import GLBindings.Proofs.Traversal
import GLBindings.Version
import Mathlib.Algebra.Ring.Nat

namespace GLBindings.Version

open GLBindings.Text

/-!
# Grammar — how versions are written

A version is read from components between dots, where each component is digits, perhaps behind a
plus sign, and from nothing else.  This file states which texts that are, without the reader, and
proves that the written form of a version is the one among them that has no zeros or signs to spare.

* `IsNumeral`, `Spells` — digits, and components with their numbers.
* `Written` — components between dots, and white space around them.
* `component?_eq_some`, `parse?_eq_ok` — what is read of a component and of a text.
* `IsCanonical` — decimal numbers without a zero in front, between dots.
* `toDigits_ofDigitChars` — such a number is the only one with its value.
* `parse?_grammar` — what is read, and what is written again.
-/

/-! ### Numerals -/

/-- One or more digits of ASCII. -/
structure IsNumeral (ds : List Char) : Prop where
  nonempty : ds ≠ []
  digits : ∀ c ∈ ds, c.isDigit = true

/-- What a number is printed as is a numeral. -/
theorem isNumeral_toDigits (n : Nat) : IsNumeral (Nat.toDigits 10 n) :=
  ⟨Nat.toDigits_ne_nil, fun _ hc => Nat.isDigit_of_mem_toDigits (by decide) (by decide) hc⟩

/-- A text has a value in base ten exactly if it holds digits only. -/
theorem digitsValue?_eq_some {cs : List Char} {n : Nat} :
    digitsValue? cs = some n ↔ (∀ c ∈ cs, c.isDigit = true) ∧ Nat.ofDigitChars 10 cs 0 = n := by
  rw [digitsValue?]
  generalize 0 = start
  induction cs generalizing start with
  | nil => simp
  | cons c cs ih =>
    rw [List.foldl_cons, Nat.ofDigitChars_cons, Option.bind_some, List.forall_mem_cons]
    by_cases hc : c.isDigit = true
    · rw [if_pos hc, ih, and_assoc]
      exact (and_iff_right hc).symm
    · -- no digits behind this character make up for it
      have hnone : ∀ cs : List Char, cs.foldl (fun (acc : Option Nat) c => acc.bind fun n =>
          if c.isDigit = true then some (10 * n + (c.toNat - 48)) else none) none = none := by
        intro cs
        induction cs with
        | nil => rfl
        | cons c cs ih => exact ih
      rw [if_neg hc]
      simp [hnone, hc]

/-! ### Components -/

/-- A component as it may be written, with its number: digits, perhaps behind one plus sign. -/
inductive Spells : List Char → Nat → Prop
  | digits {ds : List Char} (h : IsNumeral ds) : Spells ds (Nat.ofDigitChars 10 ds 0)
  | plus {ds : List Char} (h : IsNumeral ds) : Spells ('+' :: ds) (Nat.ofDigitChars 10 ds 0)

/-- A number is spelled by its decimal digits. -/
theorem spells_toDigits (n : Nat) : Spells (Nat.toDigits 10 n) n := by
  have hspells : Spells (Nat.toDigits 10 n) (Nat.ofDigitChars 10 (Nat.toDigits 10 n) 0) :=
    .digits (isNumeral_toDigits n)
  rwa [Nat.ofDigitChars_toDigits (by decide) (by decide)] at hspells

/-- A spelling holds digits and a plus sign only, in particular no point and no white space. -/
theorem Spells.mem {piece : List Char} {n : Nat} (h : Spells piece n) :
    ∀ c ∈ piece, c = '+' ∨ c.isDigit = true := by
  intro c hc
  cases h with
  | digits h => exact .inr (h.digits c hc)
  | plus h =>
    rcases List.mem_cons.mp hc with rfl | hc
    · exact .inl rfl
    · exact .inr (h.digits c hc)

/-- Digits spell their value only. -/
theorem Spells.eq_ofDigitChars {ds : List Char} {n : Nat} (h : Spells ds n) (hds : IsNumeral ds) :
    n = Nat.ofDigitChars 10 ds 0 := by
  cases h with
  | digits => rfl
  | plus => cases hds.digits '+' List.mem_cons_self

/-- The number of one or more digits, if it has 32 bits. -/
def ofDigits? (ds : List Char) : Option UInt32 :=
  if ds = [] then none
  else (digitsValue? ds).bind fun k => if k < UInt32.size then some (UInt32.ofNat k) else none

/-- A plus sign in front of a component is skipped. -/
theorem component?_plus (ds : List Char) : component? ('+' :: ds) = ofDigits? ds := by
  cases ds with
  | nil => rfl
  | cons c cs =>
    rw [ofDigits?, if_neg (List.cons_ne_nil c cs)]
    simp only [component?]
    cases digitsValue? (c :: cs) <;> rfl

/-- A component without a plus sign is read as it stands. -/
theorem component?_of_ne {cs : List Char} (hne : ∀ ds, cs = '+' :: ds → False) :
    component? cs = ofDigits? cs := by
  cases cs with
  | nil => rfl
  | cons c cs =>
    rw [ofDigits?, if_neg (List.cons_ne_nil c cs)]
    simp only [component?]
    cases digitsValue? (c :: cs) <;> rfl

/-- A numeral is read exactly if its value fits into 32 bits. -/
theorem ofDigits?_eq_some {ds : List Char} {n : UInt32} :
    ofDigits? ds = some n ↔ IsNumeral ds ∧ Nat.ofDigitChars 10 ds 0 = n.toNat := by
  have hbits : ∀ k, (if k < UInt32.size then some (UInt32.ofNat k) else none) = some n
      ↔ k = n.toNat := by
    intro k
    by_cases hk : k < UInt32.size
    · rw [if_pos hk, Option.some.injEq, ← UInt32.toNat_inj, UInt32.toNat_ofNat_of_lt' hk]
    · rw [if_neg hk]
      exact iff_of_false (by simp) fun h => hk (h ▸ n.toNat_lt_size)
  by_cases hnil : ds = []
  · rw [ofDigits?, if_pos hnil]
    exact iff_of_false (by simp) fun h => h.1.nonempty hnil
  · rw [ofDigits?, if_neg hnil, Option.bind_eq_some_iff]
    simp only [hbits, exists_eq_right, digitsValue?_eq_some]
    exact ⟨fun h => ⟨⟨hnil, h.1⟩, h.2⟩, fun h => ⟨h.1.digits, h.2⟩⟩

/-- Spellings with a plus sign in front. -/
theorem spells_plus_iff {ds : List Char} {k : Nat} :
    Spells ('+' :: ds) k ↔ IsNumeral ds ∧ Nat.ofDigitChars 10 ds 0 = k := by
  constructor
  · intro h
    cases h with
    | digits h => cases h.digits '+' List.mem_cons_self
    | plus h => exact ⟨h, rfl⟩
  · rintro ⟨h, rfl⟩
    exact .plus h

/-- Spellings without a plus sign in front. -/
theorem spells_iff_of_ne {cs : List Char} (hcs : ∀ ds, cs ≠ '+' :: ds) {k : Nat} :
    Spells cs k ↔ IsNumeral cs ∧ Nat.ofDigitChars 10 cs 0 = k := by
  constructor
  · intro h
    cases h with
    | digits h => exact ⟨h, rfl⟩
    | plus h => exact absurd rfl (hcs _)
  · rintro ⟨h, rfl⟩
    exact .digits h

/-- A component is read exactly when it spells a number of 32 bits. -/
theorem component?_eq_some {cs : List Char} {n : UInt32} :
    component? cs = some n ↔ Spells cs n.toNat := by
  by_cases hplus : ∃ ds, cs = '+' :: ds
  · obtain ⟨ds, rfl⟩ := hplus
    rw [component?_plus, spells_plus_iff, ofDigits?_eq_some]
  · have hne : ∀ ds, cs = '+' :: ds → False := fun ds h => hplus ⟨ds, h⟩
    rw [component?_of_ne hne, spells_iff_of_ne hne, ofDigits?_eq_some]

/-! ### Components between dots -/

/-- A version as it may be written: components between dots, and white space around them. -/
def Written (text : List Char) (numbers : List Nat) : Prop :=
  ∃ before pieces after, text = before ++ ['.'].intercalate pieces ++ after
    ∧ (∀ c ∈ before, isBlank c = true) ∧ (∀ c ∈ after, isBlank c = true)
    ∧ List.Forall₂ Spells pieces numbers

/-- Components are found between the dots, whatever white space is around them. -/
theorem splitAt_trimChars {pieces : List (List Char)} {numbers : List Nat}
    (h : List.Forall₂ Spells pieces numbers) (hne : pieces ≠ []) {before after : List Char}
    (hbefore : ∀ c ∈ before, isBlank c = true) (hafter : ∀ c ∈ after, isBlank c = true) :
    splitAt (· == '.') (trimChars (before ++ ['.'].intercalate pieces ++ after)) = pieces := by
  have hmem : ∀ piece ∈ pieces, ∀ c ∈ piece, c = '+' ∨ c.isDigit = true :=
    ((List.forall₂_and_left _ _).mp (h.imp fun _ _ hspells => ⟨hspells.mem, hspells⟩)).1
  have hnonblank : ∀ c ∈ ['.'].intercalate pieces, isBlank c = false := by
    intro c hc
    rcases mem_intercalate hc with rfl | ⟨piece, hpiece, hc⟩
    · decide
    · rcases hmem piece hpiece c hc with rfl | hdigit
      · decide
      · exact isBlank_of_isDigit hdigit
  have hdot : ∀ piece ∈ pieces, '.' ∉ piece := by
    intro piece hpiece hdot
    rcases hmem piece hpiece '.' hdot with hplus | hdigit
    · cases hplus
    · cases hdigit
  rw [trimChars_append hbefore hafter (fun c hc => hnonblank c (List.mem_of_mem_head? hc))
    (fun c hc => hnonblank c (List.mem_of_mem_getLast? hc)), splitAt_intercalate hne hdot]

/-- A version is parsed exactly if every piece between two points is a component. -/
theorem parse?_eq_ok_iff_mapM {s : String} {v : Version} :
    parse? s = .ok v
      ↔ (splitAt (· == '.') (trimChars s.toList)).mapM component? = some v.parts := by
  obtain ⟨major, rest⟩ := v
  rw [parse?]
  split
  · rename_i hempty
    rw [hempty]
    simp [splitAt, component?]
  · cases (splitAt (· == '.') (trimChars s.toList)).mapM component? with
    | none => simp
    | some numbers =>
      cases numbers with
      | nil => simp [parts]
      | cons first others => simp [parts]

/-- The same with what a piece must look like in place of how it is read. -/
theorem parse?_eq_ok_iff_forall₂ {s : String} {v : Version} :
    parse? s = .ok v ↔ List.Forall₂ Spells (splitAt (· == '.') (trimChars s.toList))
      (v.parts.map UInt32.toNat) := by
  rw [parse?_eq_ok_iff_mapM, mapM_eq_some, List.forall₂_map_right_iff]
  simp only [component?_eq_some]

/-- **Reading.**  A version is read exactly from the texts in which it may be written. -/
theorem parse?_eq_ok {s : String} {v : Version} :
    parse? s = .ok v ↔ Written s.toList (v.parts.map UInt32.toNat) := by
  rw [parse?_eq_ok_iff_forall₂]
  constructor
  · intro h
    obtain ⟨before, after, hs, hbefore, hafter⟩ := exists_eq_trimChars s.toList
    rw [← intercalate_splitAt '.' (trimChars s.toList)] at hs
    exact ⟨before, _, after, hs, hbefore, hafter, h⟩
  · rintro ⟨before, pieces, after, hs, hbefore, hafter, h⟩
    -- a version has components, so there are pieces
    have hne : pieces ≠ [] := by
      rintro rfl
      cases h
    rw [hs, splitAt_trimChars h hne hbefore hafter]
    exact h

/-- Some version is read when there are components, each with a number of 32 bits. -/
theorem exists_parse?_eq_ok {s : String} :
    (∃ v, parse? s = .ok v)
      ↔ ∃ numbers, numbers ≠ [] ∧ (∀ n ∈ numbers, n ≤ 2 ^ 32 - 1) ∧ Written s.toList numbers := by
  constructor
  · rintro ⟨v, hv⟩
    refine ⟨v.parts.map UInt32.toNat, by simp [parts], ?_, parse?_eq_ok.mp hv⟩
    intro n hn
    obtain ⟨part, -, rfl⟩ := List.mem_map.mp hn
    exact Nat.le_sub_one_of_lt part.toNat_lt
  · rintro ⟨numbers, hne, hbound, hs⟩
    cases numbers with
    | nil => exact absurd rfl hne
    | cons first others =>
      refine ⟨⟨UInt32.ofNat first, others.map UInt32.ofNat⟩, parse?_eq_ok.mpr ?_⟩
      -- numbers of 32 bits are what their components stand for
      have hround : ((first :: others).map UInt32.ofNat).map UInt32.toNat = first :: others := by
        rw [List.map_map]
        refine (List.map_congr_left fun n hn => ?_).trans (List.map_id _)
        have hlt : n < UInt32.size := Nat.lt_of_le_of_lt (hbound n hn) (by decide)
        exact UInt32.toNat_ofNat_of_lt' hlt
      rw [← hround] at hs
      exact hs

/-! ### The canonical form -/

/-- A decimal number as it is written: no zero in front of other digits. -/
structure IsDecimal (ds : List Char) : Prop extends IsNumeral ds where
  noZero : ds.head? = some '0' → ds = ['0']

/-- Decimal numbers between dots. -/
def IsCanonical (text : List Char) : Prop :=
  ∃ pieces, pieces ≠ [] ∧ text = ['.'].intercalate pieces ∧ ∀ piece ∈ pieces, IsDecimal piece

/-- The value of a digit is written as that digit. -/
theorem toDigits_digit {c : Char} (hc : c.isDigit = true) :
    c.toNat - '0'.toNat < 10 ∧ Nat.toDigits 10 (c.toNat - '0'.toNat) = [c] := by
  have hbounds : 48 ≤ c.toNat ∧ c.toNat ≤ 57 := Char.isDigit_iff_toNat.mp hc
  have hlt : c.toNat - '0'.toNat < 10 := by
    show c.toNat - 48 < 10
    omega
  refine ⟨hlt, ?_⟩
  rw [Nat.toDigits_of_lt_base hlt]
  congr 1
  apply Char.toNat_inj.mp
  rw [Nat.toNat_digitChar_of_lt_ten hlt]
  show 48 + (c.toNat - 48) = c.toNat
  omega

/-- Digits behind those of a positive number. -/
theorem toDigits_append {cs : List Char} (hcs : ∀ c ∈ cs, c.isDigit = true) {n : Nat} (hn : 0 < n) :
    Nat.toDigits 10 n ++ cs = Nat.toDigits 10 (Nat.ofDigitChars 10 cs n) := by
  induction cs generalizing n with
  | nil => rw [List.append_nil, Nat.ofDigitChars_nil]
  | cons c cs ih =>
    obtain ⟨hc, hrest⟩ := List.forall_mem_cons.mp hcs
    obtain ⟨hlt, hdigit⟩ := toDigits_digit hc
    -- one digit goes over from the text to the number
    rw [Nat.ofDigitChars_cons, ← ih hrest (by omega),
      ← Nat.toDigits_append_toDigits (by decide) hn hlt, hdigit, List.append_assoc,
      List.singleton_append]

/-- **Uniqueness.**  A decimal number is the one that its value is written as. -/
theorem toDigits_ofDigitChars {ds : List Char} (h : IsDecimal ds) :
    Nat.toDigits 10 (Nat.ofDigitChars 10 ds 0) = ds := by
  obtain ⟨⟨hne, hdigits⟩, hzero⟩ := h
  cases ds with
  | nil => exact absurd rfl hne
  | cons c cs =>
    obtain ⟨hc, hrest⟩ := List.forall_mem_cons.mp hdigits
    obtain ⟨-, hdigit⟩ := toDigits_digit hc
    by_cases hfirst : c = '0'
    · rw [hzero (congrArg some hfirst)]
      rfl
    · -- any other digit in front stands for a number that is not zero
      have hpos : 0 < c.toNat - '0'.toNat := by
        by_contra hnot
        have hvalue : c.toNat - '0'.toNat = 0 := by omega
        rw [hvalue] at hdigit
        exact hfirst (List.singleton_inj.mp hdigit).symm
      rw [Nat.ofDigitChars_cons, Nat.mul_zero, Nat.zero_add, ← toDigits_append hrest hpos, hdigit,
        List.singleton_append]

/-- Only zero is written with a zero in front. -/
theorem isDecimal_toDigits (n : Nat) : IsDecimal (Nat.toDigits 10 n) := by
  refine ⟨isNumeral_toDigits n, fun h => ?_⟩
  induction n using Nat.strong_induction_on with
  | h n ih =>
    rw [Nat.toDigits_eq_if (by decide)] at h ⊢
    split at h
    · rename_i hn
      rw [if_pos hn]
      simpa using h
    · rename_i hn
      -- the digits of `n / 10` are those in front of the last one
      have hfront : (Nat.toDigits 10 (n / 10)).head? = some '0' := by
        rwa [List.head?_append_of_ne_nil _ Nat.toDigits_ne_nil] at h
      have hzero : n / 10 = 0 := by
        rw [← Nat.ofDigitChars_toDigits (b := 10) (n := n / 10) (by decide) (by decide),
          ih (n / 10) (by omega) hfront]
        rfl
      omega

/-- A printed version on characters. -/
theorem toList_toString (v : Version) :
    v.toString.toList = ['.'].intercalate (v.parts.map fun n => Nat.toDigits 10 n.toNat) := by
  rw [Version.toString, String.toList_intercalate, List.map_map]
  congr 1
  refine List.map_congr_left fun n _ => ?_
  show (Nat.repr n.toNat).toList = _
  rw [Nat.repr_eq_ofList_toDigits, String.toList_ofList]

/-- A printed version is in canonical form. -/
theorem isCanonical_toString (v : Version) : IsCanonical v.toString.toList := by
  refine ⟨_, by simp [parts], toList_toString v, ?_⟩
  intro piece hpiece
  obtain ⟨n, -, rfl⟩ := List.mem_map.mp hpiece
  exact isDecimal_toDigits n.toNat

/-- **Round trip.**  A version is read from the text that it is written as. -/
theorem parse?_toString (v : Version) : parse? v.toString = .ok v := by
  have hspells : List.Forall₂ Spells (v.parts.map fun n => Nat.toDigits 10 n.toNat)
      (v.parts.map UInt32.toNat) := by
    rw [List.forall₂_map_left_iff, List.forall₂_map_right_iff, List.forall₂_same]
    exact fun n _ => spells_toDigits n.toNat
  refine parse?_eq_ok.mpr ⟨[], _, [], ?_, by simp, by simp, hspells⟩
  rw [List.nil_append, List.append_nil]
  exact toList_toString v

/-- A text without zeros and signs to spare is the one that its version is written as. -/
theorem eq_toString_iff {s : String} {v : Version} :
    IsCanonical s.toList ∧ parse? s = .ok v ↔ s = v.toString := by
  constructor
  · rintro ⟨⟨pieces, hne, hs, hdecimal⟩, hparse⟩
    have hspells : List.Forall₂ Spells pieces (pieces.map (Nat.ofDigitChars 10 · 0)) := by
      rw [List.forall₂_map_right_iff, List.forall₂_same]
      exact fun piece hpiece => .digits (hdecimal piece hpiece).toIsNumeral
    -- there is nothing to trim, and so the pieces are those between the dots
    have hcut : splitAt (· == '.') (trimChars s.toList) = pieces := by
      have hnone : ∀ c ∈ ([] : List Char), isBlank c = true := by simp
      have hcut := splitAt_trimChars hspells hne hnone hnone
      rwa [List.nil_append, List.append_nil, ← hs] at hcut
    rw [parse?_eq_ok_iff_forall₂, hcut, List.forall₂_map_right_iff] at hparse
    -- each piece is written as the component that is read from it
    have hpieces : List.Forall₂ (fun piece n => piece = Nat.toDigits 10 n.toNat) pieces v.parts := by
      refine ((List.forall₂_and_left _ _).mpr ⟨hdecimal, hparse⟩).imp ?_
      rintro piece n ⟨hdecimal, hspells⟩
      rw [hspells.eq_ofDigitChars hdecimal.toIsNumeral, toDigits_ofDigitChars hdecimal]
    have hall : pieces = v.parts.map fun n => Nat.toDigits 10 n.toNat := by
      rwa [← List.forall₂_map_right_iff (R := Eq), List.forall₂_eq_eq_eq] at hpieces
    rw [← String.toList_inj, toList_toString, hs, hall]
  · rintro rfl
    exact ⟨isCanonical_toString v, parse?_toString v⟩

/-! ### Reading and writing together -/

/-- **What is read and what is written.**  A version is read from a text exactly when, between white
space, the text is a sequence of one or more components separated by dots, each of them one or more
digits behind a plus sign at most and below `2 ^ 32`; the numbers of the version are then theirs, in
order, so there is a first one.  A version is read back from the text that it is written as, which is
the only text of it without zeros and signs to spare; so a text that was read and written once stays
as it is from then on. -/
theorem parse?_grammar (s : String) (v : Version) :
    ((∃ w, parse? s = .ok w)
      ↔ ∃ numbers, numbers ≠ [] ∧ (∀ n ∈ numbers, n ≤ 2 ^ 32 - 1) ∧ Written s.toList numbers)
    ∧ (parse? s = .ok v ↔ Written s.toList (v.parts.map UInt32.toNat))
    ∧ v.parts.head? = some v.major
    ∧ parse? v.toString = .ok v
    ∧ (IsCanonical s.toList ∧ parse? s = .ok v ↔ s = v.toString)
    ∧ ∀ w, parse? s = .ok w → IsCanonical w.toString.toList
      ∧ (parse? w.toString).map Version.toString = .ok w.toString := by
  refine ⟨exists_parse?_eq_ok, parse?_eq_ok, rfl, parse?_toString v, eq_toString_iff, ?_⟩
  -- what is written is read back, so it is written the same again
  intro w _
  rw [parse?_toString w]
  exact ⟨isCanonical_toString w, rfl⟩

/-- A text with white space, a plus sign and zeros in front: it is read as `7.0`, and written so. -/
theorem parse?_grammar_padded :
    (∃ w, parse? " +007.0\n" = .ok w) ∧ parse? " +007.0\n" = .ok ⟨7, [0]⟩
      ∧ ¬ IsCanonical " +007.0\n".toList
      ∧ (parse? "7.0").map Version.toString = .ok "7.0" := by
  have hseven : Spells ['+', '0', '0', '7'] 7 := .plus ⟨by simp, List.all_eq_true.mp (by decide)⟩
  have hzero : Spells ['0'] 0 := .digits ⟨by simp, List.all_eq_true.mp (by decide)⟩
  have hwritten : Written " +007.0\n".toList [7, 0] :=
    ⟨[' '], [['+', '0', '0', '7'], ['0']], ['\n'], rfl, List.all_eq_true.mp (by decide),
      List.all_eq_true.mp (by decide), .cons hseven (.cons hzero .nil)⟩
  obtain ⟨hread, heq, -, -, hcanonical, hfixed⟩ := parse?_grammar " +007.0\n" ⟨7, [0]⟩
  have hparse : parse? " +007.0\n" = .ok ⟨7, [0]⟩ := heq.mpr hwritten
  have hdisplay : (Version.mk 7 [0]).toString = "7.0" := by decide
  refine ⟨hread.mpr ⟨[7, 0], by simp, by simp, hwritten⟩, hparse, ?_, ?_⟩
  · intro h
    have hsame := hcanonical.mp ⟨h, hparse⟩
    rw [hdisplay] at hsame
    revert hsame
    decide
  · rw [← hdisplay]
    exact (hfixed _ hparse).2

end GLBindings.Version
