import Mathlib.Data.List.Nodup

namespace GLBindings

/-!
# First occurrences — lists without their repetitions

Name sets and indexes grow at their end, and only by what they do not have yet.  What such a
growth comes to is `List.eraseDups` of everything that was offered:

* `appendNew`, `foldl_appendNew` — growing step by step, and what it comes to;
* `firstOfEach` — the first value of each key, and how it commutes with looking up a key
  (`find?_firstOfEach`, `find?_of_mem_firstOfEach`) and with taking the keys (`map_firstOfEach`);
  `eq_firstOfEach_iff` — these two say all about it;
* `perm_flatMap_filter` — the values sorted into lists by their keys are a permutation of all.
-/

/-! ### Distinct lists -/

section Distinct

variable {α : Type} [BEq α] [LawfulBEq α]

/-- A list without repetitions consists of first occurrences only. -/
theorem eraseDups_of_nodup {l : List α} (h : l.Nodup) : l.eraseDups = l := by
  induction l with
  | nil => rfl
  | cons a l ih =>
    obtain ⟨ha, hl⟩ := List.nodup_cons.mp h
    have hkeep : l.filter (fun b => !b == a) = l := by
      rw [List.filter_eq_self]
      intro b hb
      have hne : b ≠ a := fun e => ha (e ▸ hb)
      simpa using hne
    rw [List.eraseDups_cons, hkeep, ih hl]

/-- First occurrences do not repeat. -/
theorem nodup_eraseDups : ∀ l : List α, l.eraseDups.Nodup
  | [] => List.nodup_nil
  | a :: l => by
    have ih := nodup_eraseDups (l.filter fun b => !b == a)
    rw [List.eraseDups_cons, List.nodup_cons]
    refine ⟨?_, ih⟩
    rw [List.mem_eraseDups, List.mem_filter]
    simp
termination_by l => l.length
decreasing_by exact Nat.lt_succ_of_le (List.length_filter_le _ l)

/-- A repetition further on does not change the first occurrences. -/
theorem eraseDups_append_cons_of_mem {l rest : List α} {a : α} (h : a ∈ l) :
    (l ++ a :: rest).eraseDups = (l ++ rest).eraseDups := by
  rw [List.eraseDups_append, List.eraseDups_append, List.cons_removeAll]
  simp [h]

/-- Taking values out of the first occurrences leaves the first occurrences of the others. -/
theorem filter_eraseDups (p : α → Bool) : ∀ l : List α,
    l.eraseDups.filter p = (l.filter p).eraseDups
  | [] => rfl
  | a :: l => by
    have ih := filter_eraseDups p (l.filter fun b => !b == a)
    rw [List.eraseDups_cons, List.filter_cons, List.filter_cons, ih, List.filter_filter]
    cases ha : p a with
    | true =>
      simp only [if_true]
      rw [List.eraseDups_cons, List.filter_filter]
      simp only [Bool.and_comm]
    | false =>
      -- what equals `a` goes in any case
      simp only [Bool.false_eq_true, if_false]
      congr 1
      refine List.filter_congr fun b _ => ?_
      by_cases hb : b = a
      · rw [hb, ha, Bool.false_and]
      · simp [hb]
termination_by l => l.length
decreasing_by exact Nat.lt_succ_of_le (List.length_filter_le _ l)

/-- A list grown by one value, unless it has the value. -/
def appendNew (l : List α) (a : α) : List α :=
  if l.contains a then l else l ++ [a]

/-- A distinct list stays distinct when it grows by what it does not have. -/
theorem nodup_appendNew {l : List α} (h : l.Nodup) (a : α) : (appendNew l a).Nodup := by
  unfold appendNew
  split
  · exact h
  · rename_i ha
    have ha' : a ∉ l := by simpa using ha
    -- only the new value could repeat one of the list
    rw [List.nodup_append]
    refine ⟨h, by simp, ?_⟩
    rintro b hb c hc rfl
    rw [List.mem_singleton] at hc
    exact ha' (hc ▸ hb)

/-- **Growing step by step.**  A distinct list that is offered some values ends up with the first
occurrences in all that it had and was offered. -/
theorem foldl_appendNew {l : List α} (h : l.Nodup) (more : List α) :
    more.foldl appendNew l = (l ++ more).eraseDups := by
  induction more generalizing l with
  | nil =>
    rw [List.append_nil, eraseDups_of_nodup h]
    rfl
  | cons a more ih =>
    rw [List.foldl_cons, ih (nodup_appendNew h a), appendNew]
    -- a value that is there already makes no difference on either side
    split
    · rename_i ha
      rw [eraseDups_append_cons_of_mem (by simpa using ha)]
    · rw [List.append_assoc, List.singleton_append]

end Distinct

/-! ### The first value of each key -/

section Keys

variable {α κ : Type} [BEq κ] (key : α → κ)

/-- Of the values with a key, the first; in order. -/
def firstOfEach (values : List α) : List α :=
  values.eraseDupsBy fun v w => key v == key w

/-- The first value is kept, and what follows loses every value of its key: the recursion of
`firstOfEach` on the input instead of on what is already kept. -/
theorem firstOfEach_cons (v : α) (values : List α) :
    firstOfEach key (v :: values)
      = v :: firstOfEach key (values.filter fun w => !key w == key v) := by
  have hcongr : (fun w => decide ((key w == key v) = false)) = fun w => !key w == key v := by
    funext w
    cases key w == key v <;> rfl
  rw [firstOfEach, List.eraseDupsBy_cons, hcongr, ← firstOfEach]

/-- The keys of the first values are the first occurrences of the keys. -/
theorem map_firstOfEach : ∀ values : List α,
    (firstOfEach key values).map key = (values.map key).eraseDups
  | [] => rfl
  | v :: values => by
    have ih := map_firstOfEach (values.filter fun w => !key w == key v)
    rw [firstOfEach_cons, List.map_cons, ih, List.map_cons, List.eraseDups_cons, List.filter_map]
    rfl
termination_by values => values.length
decreasing_by exact Nat.lt_succ_of_le (List.length_filter_le _ values)

variable [LawfulBEq κ] in
/-- The first values are looked up like all of them. -/
theorem find?_firstOfEach (k : κ) : ∀ values : List α,
    (firstOfEach key values).find? (key · == k) = values.find? (key · == k)
  | [] => rfl
  | v :: values => by
    have ih := find?_firstOfEach k (values.filter fun w => !key w == key v)
    rw [firstOfEach_cons, List.find?_cons, List.find?_cons, ih, List.find?_filter]
    cases hv : key v == k with
    | true => rfl
    | false =>
      -- the values that were dropped have the key of the head, which is not `k`
      show values.find? _ = values.find? _
      congr 1
      funext w
      by_cases hw : key w = key v
      · simp [hw, hv]
      · simp [hw]
termination_by values => values.length
decreasing_by exact Nat.lt_succ_of_le (List.length_filter_le _ values)

variable [LawfulBEq κ] {key} in
/-- A first value is the one that is found under its key. -/
theorem find?_of_mem_firstOfEach {v : α} {values : List α} (h : v ∈ firstOfEach key values) :
    values.find? (key · == key v) = some v := by
  rw [← find?_firstOfEach]
  have hnd : ((firstOfEach key values).map key).Nodup := by
    rw [map_firstOfEach]
    exact nodup_eraseDups _
  obtain ⟨before, after, hsplit⟩ := List.append_of_mem h
  rw [hsplit, List.map_append, List.map_cons, List.nodup_append'] at hnd
  refine List.find?_eq_some_iff_append.mpr ⟨by simp, before, after, hsplit, fun w hw => ?_⟩
  -- the keys of first values differ, so nothing in front has the same one
  have hne : key w ≠ key v := fun e =>
    hnd.2.2 (List.mem_map_of_mem hw) (e ▸ List.mem_cons_self)
  simpa using hne

variable [LawfulBEq κ] {key} in
/-- The first values are the ones whose keys are the first occurrences of the keys and that are
found under them. -/
theorem eq_firstOfEach_iff {firsts values : List α} :
    firsts = firstOfEach key values
      ↔ firsts.map key = (values.map key).eraseDups
        ∧ ∀ v ∈ firsts, values.find? (key · == key v) = some v := by
  constructor
  · rintro rfl
    exact ⟨map_firstOfEach key values, fun v hv => find?_of_mem_firstOfEach hv⟩
  · rintro ⟨hkeys, hfound⟩
    -- a list of values that are found under their keys can be read off the keys
    have hread : ∀ l : List α, (∀ v ∈ l, values.find? (key · == key v) = some v) →
        l.map some = (l.map key).map fun k => values.find? (key · == k) := by
      intro l hl
      rw [List.map_map]
      exact List.map_congr_left fun v hv => (hl v hv).symm
    have hsome : firsts.map some = (firstOfEach key values).map some := by
      rw [hread firsts hfound, hkeys, ← map_firstOfEach,
        ← hread _ fun v hv => find?_of_mem_firstOfEach hv]
    exact (List.map_inj_right fun _ _ => Option.some.inj).mp hsome

/-! ### Sorting values by their keys -/

variable [LawfulBEq κ] in
/-- **Sorting into lists.**  For each key the values with that key, all together, are a permutation
of the values. -/
theorem perm_flatMap_filter : ∀ values : List α,
    ((values.map key).eraseDups.flatMap fun k => values.filter (key · == k)).Perm values
  | [] => .nil
  | v :: values => by
    have ih := perm_flatMap_filter (values.filter fun w => !key w == key v)
    have hkeys : (values.map key).filter (fun k => !k == key v)
        = (values.filter fun w => !key w == key v).map key := List.filter_map
    -- behind the key of the head, only values with another key are looked for
    have hlists : ∀ k ∈ ((values.filter fun w => !key w == key v).map key).eraseDups,
        (v :: values).filter (key · == k)
          = (values.filter fun w => !key w == key v).filter (key · == k) := by
      intro k hk
      obtain ⟨w, hw, rfl⟩ := List.mem_map.mp (List.mem_eraseDups.mp hk)
      have hne : key w ≠ key v := by simpa using (List.mem_filter.mp hw).2
      rw [List.filter_cons_of_neg (by simpa using Ne.symm hne), List.filter_filter]
      refine List.filter_congr fun u _ => ?_
      by_cases hu : key u = key w <;> simp [hu, hne]
    have hsplit : ((v :: values).filter (key · == key v)
        ++ values.filter fun w => !key w == key v).Perm (v :: values) := by
      have hhead := List.filter_append_perm (key · == key v) (v :: values)
      rwa [List.filter_cons_of_neg (p := fun w => !key w == key v) (by simp)] at hhead
    rw [List.map_cons, List.eraseDups_cons, List.flatMap_cons, hkeys, List.flatMap_congr hlists]
    exact (ih.append_left _).trans hsplit
termination_by values => values.length
decreasing_by exact Nat.lt_succ_of_le (List.length_filter_le _ values)

end Keys

end GLBindings
