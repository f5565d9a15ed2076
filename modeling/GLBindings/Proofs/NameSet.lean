import GLBindings.NameSet
import GLBindings.Proofs.FirstOccurrences

namespace GLBindings.NameSet

/-!
# NameSet — what the operations do to the list of names

A set is seen through its list of names, so each operation is described by one equation on lists:

* `names_insertAll` — inserting names keeps the first occurrences of all that was inserted,
  earlier or now.  `names_ofList` is the case of a set that is built from a list;
* `without` — a set less some names;
* `erase_eq` — erasing one name is the smallest case of it, and fails exactly when the name is
  absent.
-/

/-- Two sets with the same names in the same order are equal. -/
@[ext] theorem ext {s t : NameSet} (h : s.names = t.names) : s = t := by
  cases s; cases t; cases h; rfl

/-! ### Inserting -/

/-- An insertion on the list of names. -/
theorem names_insert (s : NameSet) (name : String) :
    (s.insert name).names = appendNew s.names name := by
  unfold insert appendNew
  by_cases h : name ∈ s.names <;> simp [h]

/-- Inserting a name again changes nothing, not even the order. -/
theorem insert_of_mem {s : NameSet} {name : String} (h : name ∈ s) : s.insert name = s :=
  dif_pos h

/-- A name that is not there goes to the end. -/
theorem names_insert_of_not_mem {s : NameSet} {name : String} (h : name ∉ s) :
    (s.insert name).names = s.names ++ [name] :=
  congrArg names (dif_neg h)

/-- **Inserting a list.**  What is there afterwards are the first occurrences in the names that
were there, followed by those of the list. -/
theorem names_insertAll (s : NameSet) (names : List String) :
    (s.insertAll names).names = (s.names ++ names).eraseDups := by
  rw [insertAll, ← foldl_appendNew s.nodup]
  exact (List.foldl_hom NameSet.names fun s name => (names_insert s name).symm).symm

@[simp] theorem names_ofList (names : List String) : (ofList names).names = names.eraseDups :=
  names_insertAll empty names

/-- Inserting two lists one after the other is inserting them as one. -/
theorem insertAll_insertAll (s : NameSet) (names more : List String) :
    (s.insertAll names).insertAll more = s.insertAll (names ++ more) :=
  (List.foldl_append (f := insert)).symm

/-- Membership after inserting many names, whatever their order. -/
@[simp] theorem mem_insertAll {s : NameSet} {names : List String} {name : String} :
    name ∈ s.insertAll names ↔ name ∈ s ∨ name ∈ names := by
  rw [mem_def, names_insertAll, List.mem_eraseDups, List.mem_append, mem_def]

@[simp] theorem mem_ofList {names : List String} {name : String} :
    name ∈ ofList names ↔ name ∈ names := by
  rw [mem_def, names_ofList, List.mem_eraseDups]

/-! ### Taking out -/

/-- The set less some names. -/
def without (s : NameSet) (removed : List String) : NameSet :=
  ⟨s.names.filter (· ∉ removed), s.nodup.filter _⟩

/-- Removal keeps the order of what is left. -/
@[simp] theorem names_without (s : NameSet) (removed : List String) :
    (s.without removed).names = s.names.filter (· ∉ removed) := rfl

/-- Membership after a removal. -/
@[simp] theorem mem_without {s : NameSet} {removed : List String} {name : String} :
    name ∈ s.without removed ↔ name ∈ s ∧ name ∉ removed := by
  simp [mem_def]

@[simp] theorem without_nil (s : NameSet) : s.without [] = s := by
  ext1
  simp

/-- Taking out two lists one after the other is taking them out as one. -/
theorem without_without (s : NameSet) (removed more : List String) :
    (s.without removed).without more = s.without (removed ++ more) := by
  ext1
  simp only [names_without, List.filter_filter]
  refine List.filter_congr fun name _ => ?_
  by_cases h₁ : name ∈ removed <;> by_cases h₂ : name ∈ more <;> simp [h₁, h₂]

/-- It does not matter whether other names are inserted before or after some are taken out. -/
theorem without_insertAll {s : NameSet} {names removed : List String}
    (h : ∀ name ∈ removed, name ∉ names) :
    (s.insertAll names).without removed = (s.without removed).insertAll names := by
  -- none of the names that come in is taken out again
  have hkeep : names.filter (· ∉ removed) = names := by
    rw [List.filter_eq_self]
    intro name hname
    simpa using fun hmem => h name hmem hname
  ext1
  rw [names_without, names_insertAll, names_insertAll, names_without, filter_eraseDups,
    List.filter_append, hkeep]

/-- Erasing takes out one name, and fails exactly when the name is absent. -/
theorem erase_eq (s : NameSet) (name : String) :
    s.erase name = if name ∈ s then .ok (s.without [name]) else .error ⟨name⟩ := by
  unfold erase
  by_cases h : name ∈ s
  · rw [if_pos h, if_pos h]
    congr 1
    ext1
    show s.names.erase name = s.names.filter (· ∉ [name])
    -- the name stands once, so to erase it once is to erase it everywhere
    rw [s.nodup.erase_eq_filter]
    refine List.filter_congr fun other _ => ?_
    by_cases e : other = name <;> simp [e]
  · rw [if_neg h, if_neg h]

end GLBindings.NameSet
