namespace GLBindings

/-!
# NameSet — names in the order of their first insertion

Inserting a name that is present changes nothing, and erasing one that is absent fails, unlike
with a plain list.

* `NameSet` — a list of distinct names.
* `NameSet.insert`, `NameSet.erase`, `NameSet.extend` — the operations that change a set;
  `NameSet.add` tells besides whether a name is new.
* `NameSet.Subset` — inclusion of the names, whatever their order.
-/

/-- Distinct names in the order of their first insertion. -/
structure NameSet where
  /-- The names in order. -/
  names : List String
  /-- No name stands twice. -/
  nodup : names.Nodup

namespace NameSet

instance : DecidableEq NameSet := fun s t =>
  if h : s.names = t.names then
    isTrue (by cases s; cases t; cases h; rfl)
  else
    isFalse (fun e => h (congrArg names e))

/-- The set without names. -/
def empty : NameSet := ⟨[], List.nodup_nil⟩

instance : Inhabited NameSet := ⟨empty⟩

instance : EmptyCollection NameSet := ⟨empty⟩

instance : Membership String NameSet := ⟨fun s name => name ∈ s.names⟩

instance (name : String) (s : NameSet) : Decidable (name ∈ s) :=
  inferInstanceAs (Decidable (name ∈ s.names))

/-- Membership is membership in the list of names. -/
theorem mem_def {name : String} {s : NameSet} : name ∈ s ↔ name ∈ s.names := Iff.rfl

/-- The number of names. -/
def size (s : NameSet) : Nat := s.names.length

/-- Is there no name? -/
def isEmpty (s : NameSet) : Bool := s.names.isEmpty

/-! ### Changing a set -/

/-- Appends a name that is absent. -/
def insert (s : NameSet) (name : String) : NameSet :=
  if h : name ∈ s.names then s
  else
    ⟨s.names ++ [name], by
      refine List.nodup_append.2 ⟨s.nodup, by simp, ?_⟩
      intro a ha b hb e
      rw [List.mem_singleton] at hb
      exact h (hb ▸ e ▸ ha)⟩

/-- Inserts a name, and tells whether it was absent. -/
def add (s : NameSet) (name : String) : NameSet × Bool :=
  if name ∈ s then (s, false) else (s.insert name, true)

/-- A name could not be erased because it is not in the set. -/
structure NotPresent where
  /-- The absent name. -/
  name : String
  deriving Repr, DecidableEq

/-- The wording of the failure. -/
def NotPresent.message (e : NotPresent) : String :=
  s!"'{e.name}' is not in the set"

/-- Takes out a name that is present and keeps the others in order. -/
def erase (s : NameSet) (name : String) : Except NotPresent NameSet :=
  if name ∈ s then .ok ⟨s.names.erase name, s.nodup.erase name⟩
  else .error ⟨name⟩

/-- Inserts names one after the other. -/
def insertAll (s : NameSet) (names : List String) : NameSet :=
  names.foldl insert s

/-- Inserts every name of another set, in its order. -/
def extend (s other : NameSet) : NameSet :=
  s.insertAll other.names

/-- The names of a list, each at its first place. -/
def ofList (names : List String) : NameSet :=
  empty.insertAll names

/-! ### Comparing sets -/

/-- Every name of the one is in the other. -/
protected def Subset (s t : NameSet) : Prop :=
  ∀ name ∈ s.names, name ∈ t.names

instance : HasSubset NameSet := ⟨NameSet.Subset⟩

instance (s t : NameSet) : Decidable (s ⊆ t) :=
  inferInstanceAs (Decidable (∀ name ∈ s.names, name ∈ t.names))

end NameSet

end GLBindings
