import GLBindings.Proofs.Text
import GLBindings.Version
import Mathlib.Data.List.GetD

namespace GLBindings.Version

/-!
# Version — the order of versions

Components are compared as if the shorter version went on with zeros, so versions are ordered like
lists of one length.  Equality and the hash look at a version without its trailing zeros instead.
This file proves that both views are of the same numbers.

* `compareParts_eq_compareLex` — the order is the lexicographic one of padded components.
* The instance of `Std.TransCmp` — it is a total preorder; `le_trans` and `compare_eq_lt` are what
  is used of it.
* `SameNumber` — two spellings of one number; `compare_eq_eq` and `significant_eq_iff` are what it
  means for the order and for equality.
* `UpTo` — a number that is at most another one; `le_iff_upTo` — what this means for the order.
* The instances of `Std.LawfulBEqCmp`, `EquivBEq` and `LawfulHashable` — equality is an equivalence
  that the order and the hash respect.
* `compare_lawful` — all of it together.
* `parse?_trim` — a version is read without the white space around it.
-/

/-! ### Padding -/

/-- A list of components that goes on with zeros up to a length. -/
def padded (n : Nat) (parts : List UInt32) : List UInt32 :=
  parts.rightpad n 0

/-- Behind the last component come zeros. -/
theorem padded_nil (n : Nat) : padded (n + 1) [] = 0 :: padded n [] := by
  simp [padded, List.rightpad, List.replicate_succ]

/-- A component that is there comes first. -/
theorem padded_cons (n : Nat) (part : UInt32) (parts : List UInt32) :
    padded (n + 1) (part :: parts) = part :: padded n parts := by
  simp [padded, List.rightpad]

/-- **Padding does not matter.**  Components are compared lexicographically, after both lists were
padded with zeros to any length that neither exceeds. -/
theorem compareParts_eq_compareLex {as bs : List UInt32} {n : Nat} (ha : as.length ≤ n)
    (hb : bs.length ≤ n) :
    compareParts as bs = List.compareLex Ord.compare (padded n as) (padded n bs) := by
  -- as in the comparison: both empty, the one or the other, and neither
  fun_induction compareParts as bs generalizing n with
  | case1 =>
    have hrefl : Std.ReflCmp (List.compareLex (Ord.compare : UInt32 → UInt32 → Ordering)) :=
      inferInstance
    exact hrefl.compare_self.symm
  | case2 b bs ih =>
    obtain ⟨n, rfl⟩ := Nat.exists_eq_succ_of_ne_zero (Nat.ne_zero_of_lt hb)
    rw [padded_nil, padded_cons, List.compareLex_cons_cons,
      ih (Nat.zero_le n) (Nat.le_of_succ_le_succ hb)]
  | case3 a as ih =>
    obtain ⟨n, rfl⟩ := Nat.exists_eq_succ_of_ne_zero (Nat.ne_zero_of_lt ha)
    rw [padded_nil, padded_cons, List.compareLex_cons_cons,
      ih (Nat.le_of_succ_le_succ ha) (Nat.zero_le n)]
  | case4 a as b bs ih =>
    obtain ⟨n, rfl⟩ := Nat.exists_eq_succ_of_ne_zero (Nat.ne_zero_of_lt ha)
    rw [padded_cons, padded_cons, List.compareLex_cons_cons,
      ih (Nat.le_of_succ_le_succ ha) (Nat.le_of_succ_le_succ hb)]

/-! ### A total preorder -/

instance : Std.TransCmp compareParts where
  eq_swap {as bs} := by
    have ha : as.length ≤ max as.length bs.length := Nat.le_max_left _ _
    have hb : bs.length ≤ max as.length bs.length := Nat.le_max_right _ _
    rw [compareParts_eq_compareLex ha hb, compareParts_eq_compareLex hb ha]
    exact Std.OrientedCmp.eq_swap
  isLE_trans {as bs cs} := by
    -- one length that none of the three exceeds
    have ha : as.length ≤ as.length + bs.length + cs.length := by omega
    have hb : bs.length ≤ as.length + bs.length + cs.length := by omega
    have hc : cs.length ≤ as.length + bs.length + cs.length := by omega
    rw [compareParts_eq_compareLex ha hb, compareParts_eq_compareLex hb hc,
      compareParts_eq_compareLex ha hc]
    exact Std.TransCmp.isLE_trans

instance : Std.TransCmp Version.compare where
  eq_swap := (inferInstance : Std.TransCmp compareParts).eq_swap
  isLE_trans h h' := (inferInstance : Std.TransCmp compareParts).isLE_trans h h'

variable {u v w : Version}

/-- Transitivity on versions themselves, for chains of targets. -/
theorem le_trans (h : u.le v = true) (h' : v.le w = true) : u.le w = true :=
  Std.TransCmp.isLE_trans h h'

/-- A version is up to another one exactly when it does not come after it. -/
theorem le_iff : v.le w = true ↔ v.compare w ≠ .gt := by
  rw [le]
  cases v.compare w <;> decide

/-- A version is after those that it is not up to. -/
theorem compare_eq_lt : v.compare w = .lt ↔ w.le v = false := by
  rw [← Bool.not_eq_true]
  exact ⟨Std.OrientedCmp.not_isLE_of_lt, Std.OrientedCmp.lt_of_not_isLE⟩

/-! ### Numbers and their spellings -/

/-- The same number: component for component, where those that are not written are zero. -/
def SameNumber (v w : Version) : Prop :=
  ∀ i, v.parts.getD i 0 = w.parts.getD i 0

/-- The version written with more zeros at the end. -/
def withZeros (v : Version) (n : Nat) : Version :=
  { v with rest := v.rest ++ List.replicate n 0 }

/-- Trailing zeros do not change the number. -/
theorem sameNumber_withZeros (v : Version) (n : Nat) : (v.withZeros n).SameNumber v := by
  intro i
  show (v.parts ++ List.replicate n 0).getD i 0 = v.parts.getD i 0
  -- in front nothing is different, and behind both read zero
  by_cases hi : i < v.parts.length
  · rw [List.getD_append _ _ _ _ hi]
  · have hlength : v.parts.length ≤ i := Nat.le_of_not_lt hi
    rw [List.getD_append_right _ _ _ _ hlength, List.getD_eq_default v.parts _ hlength,
      List.getD_eq_getElem?_getD, List.getElem?_getD_replicate_default_eq]

/-- Two lists of components compare as equal exactly if they agree at every position, with zeros
behind the end. -/
theorem compareParts_eq_eq {as bs : List UInt32} :
    compareParts as bs = .eq ↔ ∀ i, as.getD i 0 = bs.getD i 0 := by
  fun_induction compareParts as bs with
  | case1 => simp
  | case2 b bs ih =>
    rw [Ordering.then_eq_eq, ih, Std.compare_eq_iff_eq]
    exact Nat.and_forall_add_one (p := fun i => [].getD i 0 = (b :: bs).getD i 0)
  | case3 a as ih =>
    rw [Ordering.then_eq_eq, ih, Std.compare_eq_iff_eq]
    exact Nat.and_forall_add_one (p := fun i => (a :: as).getD i 0 = [].getD i 0)
  | case4 a as b bs ih =>
    rw [Ordering.then_eq_eq, ih, Std.compare_eq_iff_eq]
    exact Nat.and_forall_add_one (p := fun i => (a :: as).getD i 0 = (b :: bs).getD i 0)

/-- Versions that compare as equal are spellings of one number. -/
theorem compare_eq_eq : v.compare w = .eq ↔ v.SameNumber w :=
  compareParts_eq_eq

/-! ### Up to a number -/

/-- The number of `v` is at most the one of `w`: they are the same, or `v` has the smaller component
where they first differ.  Components that are not written are zero. -/
def UpTo (v w : Version) : Prop :=
  v.SameNumber w
    ∨ ∃ i, (∀ j < i, v.parts.getD j 0 = w.parts.getD j 0) ∧ v.parts.getD i 0 < w.parts.getD i 0

/-- Two sequences first differ at the start, or behind it if they start with the same. -/
theorem exists_first_lt_iff {f g : Nat → UInt32} : (∃ i, (∀ j < i, f j = g j) ∧ f i < g i)
    ↔ f 0 < g 0 ∨ f 0 = g 0 ∧ ∃ i, (∀ j < i, f (j + 1) = g (j + 1)) ∧ f (i + 1) < g (i + 1) := by
  constructor
  · rintro ⟨i, heq, hlt⟩
    -- they differ at the start, or the place is one further on in the rest
    cases i with
    | zero => exact .inl hlt
    | succ i =>
      refine .inr ⟨heq 0 (Nat.zero_lt_succ i), i, fun j hj => ?_, hlt⟩
      exact heq (j + 1) (Nat.succ_lt_succ hj)
  · rintro (hlt | ⟨hstart, i, heq, hlt⟩)
    · exact ⟨0, fun j hj => absurd hj (Nat.not_lt_zero j), hlt⟩
    · refine ⟨i + 1, fun j hj => ?_, hlt⟩
      cases j with
      | zero => exact hstart
      | succ j => exact heq j (Nat.lt_of_succ_lt_succ hj)

/-- The order is decided by the first components that differ. -/
theorem compareParts_eq_lt {as bs : List UInt32} : compareParts as bs = .lt
    ↔ ∃ i, (∀ j < i, as.getD j 0 = bs.getD j 0) ∧ as.getD i 0 < bs.getD i 0 := by
  -- the first components decide, or the rest does when they are the same
  fun_induction compareParts as bs with
  | case1 => simp
  | case2 b bs ih =>
    rw [Ordering.then_eq_lt, ih, Std.compare_eq_lt, Std.compare_eq_iff_eq]
    exact (exists_first_lt_iff (f := ([].getD · 0)) (g := ((b :: bs).getD · 0))).symm
  | case3 a as ih =>
    rw [Ordering.then_eq_lt, ih, Std.compare_eq_lt, Std.compare_eq_iff_eq]
    exact (exists_first_lt_iff (f := ((a :: as).getD · 0)) (g := ([].getD · 0))).symm
  | case4 a as b bs ih =>
    rw [Ordering.then_eq_lt, ih, Std.compare_eq_lt, Std.compare_eq_iff_eq]
    exact (exists_first_lt_iff (f := ((a :: as).getD · 0)) (g := ((b :: bs).getD · 0))).symm

/-- A version is not after another one exactly when its number is at most the other's. -/
theorem le_iff_upTo : v.le w = true ↔ v.UpTo w := by
  rw [le, Ordering.isLE_iff_eq_lt_or_eq_eq, compare_eq_eq, Version.compare, compareParts_eq_lt,
    or_comm, UpTo]

/-- Transitivity of the order, spelled out on components. -/
theorem UpTo.trans (h : u.UpTo v) (h' : v.UpTo w) : u.UpTo w :=
  le_iff_upTo.mp (le_trans (le_iff_upTo.mpr h) (le_iff_upTo.mpr h'))

instance (v w : Version) : Decidable (v.UpTo w) :=
  decidable_of_iff (v.le w = true) le_iff_upTo

/-! ### Without trailing zeros -/

/-- A first component goes only if it is zero and nothing is left behind it. -/
theorem dropTrailingZeros_cons (a : UInt32) (as : List UInt32) :
    dropTrailingZeros (a :: as)
      = if dropTrailingZeros as = [] ∧ a = 0 then [] else a :: dropTrailingZeros as := by
  rw [dropTrailingZeros, dropTrailingZeros, List.reverse_cons, List.dropWhile_append]
  -- what is left of the rest keeps the component, even if that is zero
  cases hrest : as.reverse.dropWhile (· == 0) with
  | nil => by_cases ha : a = 0 <;> simp [ha]
  | cons b bs => simp

/-- Nothing is left of components exactly when all are zero. -/
theorem dropTrailingZeros_cons_eq_nil {a : UInt32} {as : List UInt32} :
    dropTrailingZeros (a :: as) = [] ↔ a = 0 ∧ dropTrailingZeros as = [] := by
  rw [dropTrailingZeros_cons]
  split
  · rename_i h
    simp [h.1, h.2]
  · rename_i h
    simpa [and_comm] using h

/-- What is left is the same exactly when the order does not tell the components apart. -/
theorem dropTrailingZeros_eq_iff {as bs : List UInt32} :
    dropTrailingZeros as = dropTrailingZeros bs ↔ compareParts as bs = .eq := by
  have hnil : dropTrailingZeros [] = [] := rfl
  fun_induction compareParts as bs with
  | case1 => simp
  | case2 b bs ih =>
    rw [Ordering.then_eq_eq, ih.symm, Std.compare_eq_iff_eq, hnil, eq_comm,
      dropTrailingZeros_cons_eq_nil]
    exact and_congr eq_comm eq_comm
  | case3 a as ih =>
    rw [Ordering.then_eq_eq, ih.symm, Std.compare_eq_iff_eq, hnil, dropTrailingZeros_cons_eq_nil]
  | case4 a as b bs ih =>
    rw [Ordering.then_eq_eq, ih.symm, Std.compare_eq_iff_eq, dropTrailingZeros_cons,
      dropTrailingZeros_cons]
    grind

/-- Two versions have the same significant components when they are spellings of one number. -/
theorem significant_eq_iff : v.significant = w.significant ↔ v.SameNumber w :=
  dropTrailingZeros_eq_iff.trans compareParts_eq_eq

/-- Equality of versions is equality of their significant components. -/
theorem beq_iff_significant : (v == w) = true ↔ v.significant = w.significant := by
  show (v.significant == w.significant) = true ↔ v.significant = w.significant
  exact beq_iff_eq

/-- Equality of versions is equality of their numbers. -/
theorem beq_iff : (v == w) = true ↔ v.SameNumber w :=
  beq_iff_significant.trans significant_eq_iff

instance : Std.LawfulBEqCmp Version.compare where
  compare_eq_iff_beq := compare_eq_eq.trans beq_iff.symm

instance : EquivBEq Version where
  rfl := beq_iff_significant.mpr rfl
  symm h := beq_iff_significant.mpr (beq_iff_significant.mp h).symm
  trans h h' := beq_iff_significant.mpr ((beq_iff_significant.mp h).trans (beq_iff_significant.mp h'))

instance : LawfulHashable Version where
  hash_eq v w h := by
    show hash v.significant = hash w.significant
    rw [beq_iff_significant.mp h]

/-! ### The laws together -/

/-- **Order, equality and hash.**  Versions are compared lexicographically, padded with zeros to any
length that neither exceeds.  This is a total preorder, in which a version is not after another one
when its number is at most the other's.  Equality is an equivalence, and two versions that the order
does not tell apart are equal and have the same significant components, which are all that is hashed.
None of this changes when zeros are written behind a version. -/
theorem compare_lawful (a b c : Version) :
    (∀ n, a.compare b = List.compareLex Ord.compare
      (padded (max a.parts.length b.parts.length + n) a.parts)
      (padded (max a.parts.length b.parts.length + n) b.parts))
    ∧ b.compare a = (a.compare b).swap
    ∧ (a.le b = true → b.le c = true → a.le c = true)
    ∧ (a.le b = true ∨ b.le a = true)
    ∧ (a.le b = true ↔ a.compare b ≠ .gt)
    ∧ (a.le b = true ↔ a.UpTo b)
    ∧ (a.compare b = .eq ↔ (a == b) = true)
    ∧ ((a == b) = true ↔ a.significant = b.significant)
    ∧ hash a = hash a.significant
    ∧ ((a == b) = true → hash a = hash b)
    ∧ (a == a) = true
    ∧ (a == b) = (b == a)
    ∧ ((a == b) = true → (b == c) = true → (a == c) = true)
    ∧ ∀ n m, (a.withZeros n).compare (b.withZeros m) = a.compare b
      ∧ (a.withZeros n == b.withZeros m) = (a == b)
      ∧ (a.withZeros n).significant = a.significant := by
  have heq : ∀ v w : Version, v.compare w = .eq ↔ (v == w) = true :=
    fun _ _ => Std.LawfulBEqCmp.compare_eq_iff_beq
  refine ⟨fun n => ?padded, Std.OrientedCmp.eq_swap, le_trans, ?total, le_iff, le_iff_upTo, heq a b,
    beq_iff_significant, rfl, LawfulHashable.hash_eq a b, ReflBEq.rfl, BEq.comm, PartialEquivBEq.trans,
    fun n m => ?zeros⟩
  case padded =>
    exact compareParts_eq_compareLex (by omega) (by omega)
  case total =>
    rw [or_iff_not_imp_left, Bool.not_eq_true, ← compare_eq_lt]
    intro hlt
    rw [le, hlt]
    rfl
  case zeros =>
    -- in a preorder what compares as equal can be exchanged
    have ha : (a.withZeros n).compare a = .eq := compare_eq_eq.mpr (sameNumber_withZeros a n)
    have hb : (b.withZeros m).compare b = .eq := compare_eq_eq.mpr (sameNumber_withZeros b m)
    have hcompare : (a.withZeros n).compare (b.withZeros m) = a.compare b :=
      (Std.TransCmp.congr_left ha).trans (Std.TransCmp.congr_right hb)
    refine ⟨hcompare, ?_, significant_eq_iff.mpr (sameNumber_withZeros a n)⟩
    rw [Bool.eq_iff_iff, ← heq, ← heq, hcompare]

/-- The laws at `2`, `2.0` and `2.0.1`: the first two are one number, the third is after both. -/
theorem compare_lawful_two :
    ((Version.mk 2 []).compare ⟨2, [0]⟩ = .eq ∧ (Version.mk 2 [] == ⟨2, [0]⟩) = true
      ∧ hash (Version.mk 2 []) = hash (Version.mk 2 [0]))
    ∧ (Version.mk 2 [0]).le ⟨2, [0, 1]⟩ = true ∧ (Version.mk 2 []).le ⟨2, [0, 1]⟩ = true
    ∧ ((Version.mk 2 []).withZeros 3).compare ((Version.mk 2 [0, 1]).withZeros 1) = .lt := by
  obtain ⟨-, -, htrans, -, -, -, heq, -, -, hhash, -⟩ := compare_lawful ⟨2, []⟩ ⟨2, [0]⟩ ⟨2, [0, 1]⟩
  have hsame : (Version.mk 2 []).compare ⟨2, [0]⟩ = .eq := by
    simp only [Version.compare, parts, compareParts]
    decide
  have hbefore : (Version.mk 2 []).le ⟨2, [0]⟩ = true := by
    rw [le, hsame]
    rfl
  have hafter : (Version.mk 2 [0]).le ⟨2, [0, 1]⟩ = true := by
    simp only [le, Version.compare, parts, compareParts]
    decide
  obtain ⟨-, -, -, -, -, -, -, -, -, -, -, -, -, hlater⟩ := compare_lawful ⟨2, []⟩ ⟨2, [0, 1]⟩ ⟨2, []⟩
  refine ⟨⟨hsame, heq.mp hsame, hhash (heq.mp hsame)⟩, hafter, htrans hbefore hafter, ?_⟩
  rw [(hlater 3 1).1]
  simp only [Version.compare, parts, compareParts]
  decide

/-! ### Reading -/

/-- White space around a version says nothing. -/
theorem parse?_trim (s : String) : parse? (Text.trim s) = parse? s := by
  rw [parse?, parse?, Text.toList_trim, Text.trimChars_trimChars]

end GLBindings.Version
