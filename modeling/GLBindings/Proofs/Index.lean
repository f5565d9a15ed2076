import GLBindings.Index
import GLBindings.Proofs.FirstOccurrences

namespace GLBindings.Index

/-!
# Index — what the operations do to look-ups and to the names

* `find?_insertNew`, `find?_update`, `find?_erase` — what is found after one change;
* `find?_ofList`, `values_ofList` — an index of a list finds the first value of each name, and
  lists them in order;
* `find?_foldl_update` — what an index finds that collects under each name;
* `names_foldl` — whatever is collected, the names are the first occurrences of those offered;
* `collect` — an index that collects values in order; `find?_collect`, `names_collect` say what it
  has under which names, and `perm_collect` that it has everything.
-/

variable {α β : Type}

/-! ### Looking up -/

@[simp] theorem find?_empty (name : String) : (empty : Index α).find? name = none := rfl

/-- What is found in entries behind others. -/
theorem find?_append (entries more : List (String × α)) (name : String) :
    (⟨entries ++ more⟩ : Index α).find? name
      = ((⟨entries⟩ : Index α).find? name).or ((⟨more⟩ : Index α).find? name) := by
  simp only [find?, List.find?_append, Option.map_or]

/-- A look-up in an index of one entry. -/
theorem find?_singleton (name other : String) (value : α) :
    (⟨[(name, value)]⟩ : Index α).find? other = if name = other then some value else none := by
  by_cases h : name = other <;> simp [find?, h]

/-- Names are those under which something is found. -/
theorem isSome_find? (ix : Index α) (name : String) :
    (ix.find? name).isSome = true ↔ name ∈ ix.names := by
  simp [find?, names]

/-- Whether an index holds a name can be read off the list of its names. -/
theorem contains_eq_contains_names (ix : Index α) (name : String) :
    ix.contains name = ix.names.contains name := by
  rw [Bool.eq_iff_iff, contains, isSome_find?, List.contains_iff_mem]

/-- What is found when only some names are kept. -/
theorem find?_filter (ix : Index α) (keep : String → Bool) (name : String) :
    (⟨ix.entries.filter fun e => keep e.1⟩ : Index α).find? name
      = if keep name then ix.find? name else none := by
  -- keeping names and looking for one are a single condition on entries
  have hkey : (fun e : String × α => decide (keep e.1 = true ∧ (e.1 == name) = true))
      = fun e => keep name && e.1 == name := by
    funext e
    by_cases h : e.1 = name <;> simp [h]
  rw [find?, List.find?_filter, hkey]
  cases keep name <;> simp [find?]

/-- Taking a name out hides that name and nothing else. -/
theorem find?_erase (ix : Index α) (name other : String) :
    (ix.erase name).find? other = if other = name then none else ix.find? other := by
  rw [erase, find?_filter ix (· != name)]
  by_cases h : other = name <;> simp [h]

/-! ### One change -/

/-- A new value is found where nothing was. -/
theorem find?_insertNew (ix : Index α) (name other : String) (value : α) :
    (ix.insertNew name value).find? other
      = (ix.find? other).or (if name = other then some value else none) := by
  unfold insertNew contains
  split
  · rename_i h
    -- under the name itself there is a value already, and it stays
    by_cases e : name = other
    · subst e
      obtain ⟨v, hv⟩ := Option.isSome_iff_exists.mp h
      rw [hv, Option.some_or]
    · rw [if_neg e, Option.or_none]
  · rw [find?_append, find?_singleton]

/-- A new name goes to the end of the names, and a name already there leaves them as they are. -/
theorem names_insertNew (ix : Index α) (name : String) (value : α) :
    (ix.insertNew name value).names = appendNew ix.names name := by
  unfold insertNew appendNew
  rw [contains_eq_contains_names]
  split
  · rfl
  · exact List.map_append

/-- A second value for the same name is not added. -/
theorem insertNew_insertNew (ix : Index α) (name : String) (value other : α) :
    (ix.insertNew name value).insertNew name other = ix.insertNew name value := by
  have h : (ix.insertNew name value).contains name = true := by
    unfold contains
    rw [find?_insertNew, if_pos rfl]
    simp
  conv_lhs => rw [insertNew, if_pos h]

/-- Changing a value keeps what is found elsewhere. -/
theorem find?_map_change (entries : List (String × α)) (name other : String) (change : α → α) :
    (⟨entries.map fun (n, v) => if n == name then (n, change v) else (n, v)⟩ : Index α).find? other
      = ((⟨entries⟩ : Index α).find? other).map fun v => if other = name then change v else v := by
  -- the names stay, so the same entry is found
  have hkey : ((fun e : String × α => e.1 == other) ∘ fun (n, v) =>
      if n == name then (n, change v) else (n, v)) = fun e => e.1 == other := by
    funext e
    by_cases h : e.1 = name <;> simp [h]
  simp only [find?]
  rw [List.find?_map, hkey]
  cases hf : entries.find? (·.1 == other) with
  | none => rfl
  | some e =>
    have he : e.1 = other := by simpa using List.find?_some hf
    by_cases h : other = name <;> simp [he, h]

/-- What is found under the name is changed, starting from `start` when nothing was. -/
theorem find?_update (ix : Index α) (name other : String) (start : α) (change : α → α) :
    (ix.update name start change).find? other
      = if name = other then some (change ((ix.find? name).getD start)) else ix.find? other := by
  unfold update contains
  split
  · rename_i h
    obtain ⟨v, hv⟩ := Option.isSome_iff_exists.mp h
    rw [find?_map_change]
    by_cases e : name = other
    · subst e
      simp [hv]
    · simp [e, Ne.symm e]
  · rename_i h
    rw [Option.not_isSome_iff_eq_none] at h
    rw [find?_append, find?_singleton, h]
    by_cases e : name = other
    · subst e
      simp [h]
    · simp [e]

/-- An update adds its name as an insertion does, whatever it changes the value to. -/
theorem names_update (ix : Index α) (name : String) (start : α) (change : α → α) :
    (ix.update name start change).names = appendNew ix.names name := by
  unfold update appendNew
  rw [contains_eq_contains_names]
  split
  · simp only [names, List.map_map]
    refine List.map_congr_left fun e _ => ?_
    by_cases h : e.1 = name <;> simp [h]
  · exact List.map_append

/-! ### Many changes -/

/-- **The names of a collection.**  Changes that each offer one name leave the first occurrences
of the names that were there and were offered. -/
theorem names_foldl {add : Index α → β → Index α} {key : β → String}
    (hadd : ∀ ix b, (add ix b).names = appendNew ix.names (key b))
    (ix : Index α) (h : ix.names.Nodup) (bs : List β) :
    (bs.foldl add ix).names = (ix.names ++ bs.map key).eraseDups := by
  -- on the names each change is an `appendNew`
  have hhom : (bs.foldl add ix).names = (bs.map key).foldl appendNew ix.names := by
    rw [List.foldl_map]
    exact (List.foldl_hom names fun ix b => (hadd ix b).symm).symm
  rw [hhom, foldl_appendNew h]

/-- What is found after values were added is what was found before, or the first of them. -/
theorem find?_foldl_insertNew (key : α → String) (values : List α) (ix : Index α)
    (name : String) :
    (values.foldl (fun ix v => ix.insertNew (key v) v) ix).find? name
      = (ix.find? name).or (values.find? (key · == name)) := by
  induction values generalizing ix with
  | nil => simp
  | cons v values ih =>
    -- what is there already wins over `v`, and `v` over the values behind it
    rw [List.foldl_cons, ih, find?_insertNew, Option.or_assoc]
    by_cases h : key v = name
    · rw [if_pos h, Option.some_or, List.find?_cons_of_pos (by simpa using h)]
    · rw [if_neg h, Option.none_or, List.find?_cons_of_neg (by simpa using h)]

/-- An index of a list finds the first value with a name. -/
theorem find?_ofList (key : α → String) (values : List α) (name : String) :
    (ofList key values).find? name = values.find? (key · == name) := by
  rw [ofList, find?_foldl_insertNew, find?_empty, Option.none_or]

/-- The values that are added to an index are the first ones of the names it does not have. -/
theorem entries_foldl_insertNew (key : α → String) (values : List α) (ix : Index α) :
    (values.foldl (fun ix v => ix.insertNew (key v) v) ix).entries
      = ix.entries ++ (firstOfEach key (values.filter fun v => !ix.names.contains (key v))).map
          fun v => (key v, v) := by
  induction values generalizing ix with
  | nil => exact (List.append_nil ix.entries).symm
  | cons v values ih =>
    rw [List.foldl_cons, ih, names_insertNew, insertNew, appendNew, contains_eq_contains_names,
      List.filter_cons]
    by_cases h : ix.names.contains (key v) = true
    · simp only [h, if_true, Bool.not_true, Bool.false_eq_true, if_false]
    · rw [Bool.not_eq_true] at h
      -- the value comes in, and later ones of its name are left out from now on
      simp only [h, Bool.false_eq_true, if_false, Bool.not_false, if_true]
      rw [firstOfEach_cons, List.filter_filter, List.map_cons, List.append_assoc,
        List.singleton_append]
      congr 4
      refine List.filter_congr fun w _ => ?_
      by_cases e : key w = key v <;> simp [e]

/-- An index of a list has the first value of each name, in order. -/
theorem values_ofList (key : α → String) (values : List α) :
    (ofList key values).values = firstOfEach key values := by
  have h := entries_foldl_insertNew key values empty
  rw [Index.values, ofList, h]
  simp [empty, names, Function.comp_def]

/-- What is collected under a name comes from the values with that name, in order. -/
theorem find?_foldl_update (key : β → String) (start : α) (change : β → α → α) (bs : List β)
    (ix : Index α) (name : String) :
    ((bs.foldl (fun ix b => ix.update (key b) start (change b)) ix).find? name).getD start
      = (bs.filter (key · == name)).foldl (fun a b => change b a) ((ix.find? name).getD start) := by
  induction bs generalizing ix with
  | nil => rfl
  | cons b bs ih =>
    rw [List.foldl_cons, ih, find?_update, List.filter_cons]
    -- a change under another name is not seen here
    by_cases h : key b = name
    · subst h
      simp
    · simp [h]

/-! ### Values in order -/

/-- The index that collects under each name, in order, what elements with that name have. -/
def collect (key : β → String) (value : β → α) (bs : List β) : Index (List α) :=
  bs.foldl (fun ix b => ix.update (key b) [] (· ++ [value b])) empty

/-- What is collected under a name comes from all elements with the name, in order. -/
theorem find?_collect (key : β → String) (value : β → α) (bs : List β) (name : String) :
    ((collect key value bs).find? name).getD [] = (bs.filter (key · == name)).map value := by
  rw [collect, find?_foldl_update key [] fun b l => l ++ [value b], find?_empty, Option.getD_none,
    List.foldl_append_eq_append, List.nil_append, ← List.flatMap_def, List.map_eq_flatMap]

/-- The names of a collected index are the keys in order of first occurrence. -/
theorem names_collect (key : β → String) (value : β → α) (bs : List β) :
    (collect key value bs).names = (bs.map key).eraseDups :=
  names_foldl (fun ix b => names_update ix (key b) [] (· ++ [value b])) empty List.nodup_nil bs

/-- **Collecting keeps everything.**  What is found under all names together is a permutation of
what the elements have. -/
theorem perm_collect (key : β → String) (value : β → α) (bs : List β) :
    ((collect key value bs).names.flatMap fun name =>
      ((collect key value bs).find? name).getD []).Perm (bs.map value) := by
  -- name by name this is sorting the elements by their keys
  simp only [names_collect, find?_collect, ← List.map_flatMap]
  exact (perm_flatMap_filter key bs).map value

end GLBindings.Index
