namespace GLBindings

/-!
# Index — values under names, in the order of their first mention

* `Index` — names with their values.
* `Index.find?` — the value under a name.
* `Index.insertNew` — a value for a name that has none.
* `Index.put` — a value for a name, in the place of one that it has.
* `Index.update` — a change of the value under a name.
-/

/-- Values under names. -/
structure Index (α : Type) where
  /-- The names with their values in order. -/
  entries : List (String × α)
  deriving Repr, DecidableEq, Inhabited

namespace Index

variable {α : Type}

/-- The index without names. -/
def empty : Index α := ⟨[]⟩

/-- The value under a name. -/
def find? (ix : Index α) (name : String) : Option α :=
  (ix.entries.find? (·.1 == name)).map (·.2)

/-- Is there a value under the name? -/
def contains (ix : Index α) (name : String) : Bool :=
  (ix.find? name).isSome

/-- The names in order. -/
def names (ix : Index α) : List String := ix.entries.map (·.1)

/-- The values in order. -/
def values (ix : Index α) : List α := ix.entries.map (·.2)

/-- The number of names. -/
def size (ix : Index α) : Nat := ix.entries.length

/-- Adds a value, unless the name has one. -/
def insertNew (ix : Index α) (name : String) (value : α) : Index α :=
  if ix.contains name then ix else ⟨ix.entries ++ [(name, value)]⟩

/-- Changes the value under a name, or adds what the change makes of `start`. -/
def update (ix : Index α) (name : String) (start : α) (change : α → α) : Index α :=
  if ix.contains name then
    ⟨ix.entries.map fun (n, v) => if n == name then (n, change v) else (n, v)⟩
  else
    ⟨ix.entries ++ [(name, change start)]⟩

/-- Sets the value under a name. -/
def put (ix : Index α) (name : String) (value : α) : Index α :=
  ix.update name value fun _ => value

/-- The index without a name. -/
def erase (ix : Index α) (name : String) : Index α :=
  ⟨ix.entries.filter (·.1 != name)⟩

/-- The values of a list under their names, of each name the first. -/
def ofList (name : α → String) (values : List α) : Index α :=
  values.foldl (fun ix v => ix.insertNew (name v) v) empty

/-- The values of a list under their names, of each name all in order. -/
def group (name : α → String) (values : List α) : Index (List α) :=
  values.foldl (fun ix v => ix.update (name v) [] (· ++ [v])) empty

/-- Erasing a name that has a value makes the index smaller. -/
theorem size_erase_lt {ix : Index α} {name : String} {value : α} (h : ix.find? name = some value) :
    (ix.erase name).size < ix.size := by
  obtain ⟨e, he, _⟩ := Option.map_eq_some_iff.1 h
  have hm : e ∈ ix.entries := List.mem_of_find?_eq_some he
  have hn : (e.1 == name) = true := by simpa using List.find?_some he
  have hlt := List.length_filter_lt_length_iff_exists
    (l := ix.entries) (p := fun x => x.1 != name) |>.2 ⟨e, hm, by simp [bne, hn]⟩
  exact hlt

end Index

end GLBindings
