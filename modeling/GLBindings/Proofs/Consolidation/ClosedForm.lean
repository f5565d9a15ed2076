import GLBindings.Consolidation
import GLBindings.Proofs.Catalog
import GLBindings.Proofs.Traversal
import GLBindings.Proofs.Version

namespace GLBindings

open NameSelection

/-!
# Consolidation — the closed form

Consolidating is two passes: a union of everything that is required, then a list of erasures any
of which may fail.  This file says what the two passes come to.

* `requiredNames`, `removedNames` — the names that the blocks of some features list, with
  repetitions; `removals` — the erasures in the order in which they are made.
* `ofFeatures_eq` — the two passes as one run of `removals` from the required names.
* `takeOut_eq_ok`, `takeOut_eq_error` — such a run succeeds exactly when the erasures are
  `Erasable`, and otherwise stops at the first one that is not.
* `consolidate_closed_form` — success, result and error of consolidating any registry.
-/

/-! ### What features list -/

section Listed

variable (filter : Option String)

/-- Under a filter for a profile, a block that is tagged with another one does not count. -/
def Counts (tag : Option String) : Prop :=
  ∀ profile ∈ filter, ∀ t ∈ tag, t = profile

instance (tag : Option String) : Decidable (Counts filter tag) :=
  inferInstanceAs (Decidable (∀ profile ∈ filter, ∀ t ∈ tag, t = profile))

/-- The test that blocks are put to says whether they count. -/
theorem applies_eq (tag : Option String) : applies filter tag = decide (Counts filter tag) := by
  rw [Bool.eq_iff_iff, decide_eq_true_iff]
  -- without a filter every block counts, and with one only those without another tag
  cases filter with
  | none => simp [applies, Counts]
  | some profile => cases tag <;> simp [applies, Counts]

/-- The blocks of a feature that require names under a filter. -/
def Feature.requiresUnder (f : Feature) : List RequireBlock :=
  f.requires.filter fun b => Counts filter b.profile

/-- The blocks of a feature that remove names under a filter. -/
def Feature.removesUnder (f : Feature) : List RemoveBlock :=
  f.removes.filter fun b => Counts filter b.profile

/-- The names of one kind that features require, with repetitions. -/
def requiredNames (part : RequireBlock → NameSet) (fs : List Feature) : List String :=
  fs.flatMap fun f => (f.requiresUnder filter).flatMap fun b => (part b).names

/-- The names of one kind that features remove, with repetitions. -/
def removedNames (part : RemoveBlock → NameSet) (fs : List Feature) : List String :=
  fs.flatMap fun f => (f.removesUnder filter).flatMap fun b => (part b).names

/-- What features remove, in order: of each block the commands, then the constants.  The name of
the feature is kept, since an error tells it. -/
def removals (fs : List Feature) : List (String × Removal) :=
  fs.flatMap fun f => (f.removesUnder filter).flatMap fun b =>
    b.commands.names.map (fun name => (f.name, .command name))
      ++ b.enums.names.map fun name => (f.name, .enum name)

variable {filter}

/-- A name is required when a block that applies lists it. -/
theorem mem_requiredNames {part : RequireBlock → NameSet} {fs : List Feature} {name : String} :
    name ∈ requiredNames filter part fs
      ↔ ∃ f ∈ fs, ∃ b ∈ f.requiresUnder filter, name ∈ part b := by
  simp only [requiredNames, List.mem_flatMap, NameSet.mem_def]

/-- A removal is of a command or of a constant that a block lists, and blames the block's feature. -/
theorem mem_removals {fs : List Feature} {d : String × Removal} :
    d ∈ removals filter fs ↔ ∃ f ∈ fs, ∃ b ∈ f.removesUnder filter,
      (∃ name ∈ b.commands, (f.name, .command name) = d)
        ∨ ∃ name ∈ b.enums, (f.name, .enum name) = d := by
  simp only [removals, List.mem_flatMap, List.mem_append, List.mem_map, NameSet.mem_def]

end Listed

/-- The features that a registry declares for an api and whose number is at most the one of a
version, in order. -/
def Registry.featuresUpTo (r : Registry) (api : String) (version : Version) : List Feature :=
  r.features.filter fun f => f.api = api ∧ f.number.UpTo version

/-- The catalog finds these features by its index of apis and the order of versions. -/
theorem featuresUpTo_ofRegistry (r : Registry) (api : String) (version : Version) :
    (Catalog.ofRegistry r).featuresUpTo api version = r.featuresUpTo api version := by
  rw [Catalog.featuresUpTo, Catalog.featuresOf_ofRegistry, List.filter_filter]
  refine List.filter_congr fun f _ => ?_
  rw [Bool.eq_iff_iff, Bool.and_eq_true, beq_iff_eq, Version.le_iff_upTo, decide_eq_true_iff,
    and_comm]

namespace NameSelection

/-! ### One removal -/

namespace Removal

/-- The command that is taken out, if it is one. -/
def command? : Removal → Option String
  | .command name => some name
  | .enum _ => none

/-- The constant that is taken out, if it is one. -/
def enum? : Removal → Option String
  | .command _ => none
  | .enum name => some name

/-- Does the selection have what is to be taken out? -/
def In (s : NameSelection) : Removal → Prop
  | .command name => name ∈ s.commands
  | .enum name => name ∈ s.enums

instance (s : NameSelection) : (x : Removal) → Decidable (x.In s)
  | .command name => inferInstanceAs (Decidable (name ∈ s.commands))
  | .enum name => inferInstanceAs (Decidable (name ∈ s.enums))

/-- The error that blames a feature for removing what is not there. -/
def blame (feature : String) : Removal → RegistryError
  | .command name => .unknown .removedCommand name
      s!"{feature} removes a command no earlier feature required"
  | .enum name => .unknown .removedEnum name
      s!"{feature} removes an enum no earlier feature required"

/-- Only the removal of a command takes one out. -/
theorem command?_eq_some {x : Removal} {name : String} :
    x.command? = some name ↔ x = .command name := by
  cases x <;> simp [command?]

/-- Only the removal of a constant takes one out. -/
theorem enum?_eq_some {x : Removal} {name : String} : x.enum? = some name ↔ x = .enum name := by
  cases x <;> simp [enum?]

end Removal

/-- The commands that some removals take out. -/
theorem mem_filterMap_command? {xs : List Removal} {name : String} :
    name ∈ xs.filterMap Removal.command? ↔ .command name ∈ xs := by
  simp [List.mem_filterMap, Removal.command?_eq_some]

/-- The constants that some removals take out. -/
theorem mem_filterMap_enum? {xs : List Removal} {name : String} :
    name ∈ xs.filterMap Removal.enum? ↔ .enum name ∈ xs := by
  simp [List.mem_filterMap, Removal.enum?_eq_some]

/-- The selection less what some removals take out. -/
def without (s : NameSelection) (xs : List Removal) : NameSelection :=
  ⟨s.commands.without (xs.filterMap Removal.command?),
    s.enums.without (xs.filterMap Removal.enum?), s.types⟩

@[simp] theorem without_nil (s : NameSelection) : s.without [] = s := by
  simp [without]

/-- The removal of a command leaves the constants alone. -/
theorem without_command (s : NameSelection) (name : String) :
    s.without [.command name] = { s with commands := s.commands.without [name] } := by
  rw [without]
  exact congrArg (NameSelection.mk _ · _) s.enums.without_nil

/-- The removal of a constant leaves the commands alone. -/
theorem without_enum (s : NameSelection) (name : String) :
    s.without [.enum name] = { s with enums := s.enums.without [name] } := by
  rw [without]
  exact congrArg (NameSelection.mk · _ _) s.commands.without_nil

/-- Removals can be made one at a time. -/
theorem without_cons (s : NameSelection) (x : Removal) (xs : List Removal) :
    (s.without [x]).without xs = s.without (x :: xs) := by
  simp only [without, NameSet.without_without, ← List.filterMap_append, List.singleton_append]

/-- What is left after some removals is what was there and is not among them. -/
@[simp] theorem in_without {s : NameSelection} {xs : List Removal} {x : Removal} :
    x.In (s.without xs) ↔ x.In s ∧ x ∉ xs := by
  cases x with
  | command name =>
    show name ∈ s.commands.without _ ↔ _
    rw [NameSet.mem_without, mem_filterMap_command?]
    rfl
  | enum name =>
    show name ∈ s.enums.without _ ↔ _
    rw [NameSet.mem_without, mem_filterMap_enum?]
    rfl

/-- One removal takes out its name, or fails because it is absent. -/
theorem apply_eq (feature : String) (s : NameSelection) (x : Removal) :
    apply feature s x = if x.In s then .ok (s.without [x]) else .error (x.blame feature) := by
  cases x with
  | command name =>
    rw [apply, NameSet.erase_eq]
    by_cases h : name ∈ s.commands
    · rw [if_pos h, if_pos (show (Removal.command name).In s from h), without_command]
    · rw [if_neg h, if_neg (show ¬ (Removal.command name).In s from h)]
      rfl
  | enum name =>
    rw [apply, NameSet.erase_eq]
    by_cases h : name ∈ s.enums
    · rw [if_pos h, if_pos (show (Removal.enum name).In s from h), without_enum]
    · rw [if_neg h, if_neg (show ¬ (Removal.enum name).In s from h)]
      rfl

/-! ### A run of removals -/

/-- Can the removals be made one after another?  Each name must be there, and only once. -/
def Erasable (s : NameSelection) (xs : List Removal) : Prop :=
  (∀ x ∈ xs, x.In s) ∧ xs.Nodup

/-- Nothing can always be taken out. -/
theorem erasable_nil (s : NameSelection) : Erasable s [] :=
  ⟨fun _ h => absurd h List.not_mem_nil, List.nodup_nil⟩

/-- **One step of a run.**  The rest must be erasable from what the first one leaves. -/
theorem erasable_cons {s : NameSelection} {x : Removal} {xs : List Removal} :
    Erasable s (x :: xs) ↔ x.In s ∧ Erasable (s.without [x]) xs := by
  simp only [Erasable, List.forall_mem_cons, List.nodup_cons, in_without, List.mem_singleton]
  constructor
  · -- the names behind are other ones, so they are still there
    rintro ⟨⟨hx, hxs⟩, hnot, hnd⟩
    exact ⟨hx, fun y hy => ⟨hxs y hy, fun e => hnot (e ▸ hy)⟩, hnd⟩
  · rintro ⟨hx, hxs, hnd⟩
    exact ⟨⟨hx, fun y hy => (hxs y hy).1⟩, fun hmem => (hxs x hmem).2 rfl, hnd⟩

/-- Makes removals one after another; each blames its own feature. -/
def takeOut (s : NameSelection) (ds : List (String × Removal)) :
    Except RegistryError NameSelection :=
  ds.foldlM (fun s d => apply d.1 s d.2) s

/-- A run goes on from what its first removal leaves, or blames the feature of that. -/
theorem takeOut_cons (s : NameSelection) (d : String × Removal) (ds : List (String × Removal)) :
    takeOut s (d :: ds)
      = if d.2.In s then takeOut (s.without [d.2]) ds else .error (d.2.blame d.1) := by
  rw [takeOut, List.foldlM_cons, apply_eq]
  split <;> rfl

/-- **A run that succeeds.** -/
theorem takeOut_eq_ok {s t : NameSelection} {ds : List (String × Removal)} :
    takeOut s ds = .ok t ↔ Erasable s (ds.map (·.2)) ∧ t = s.without (ds.map (·.2)) := by
  induction ds generalizing s with
  | nil =>
    have hnil : takeOut s [] = .ok s := rfl
    simp [hnil, erasable_nil, eq_comm]
  | cons d ds ih =>
    -- the rest of the run starts from what the first removal leaves
    rw [takeOut_cons, List.map_cons, erasable_cons, ← without_cons s d.2 (ds.map (·.2))]
    by_cases h : d.2.In s
    · rw [if_pos h, ih]
      simp only [h, true_and]
    · rw [if_neg h]
      simp [h]

/-- **A run that fails.**  It stops at the first removal whose name is not there any more. -/
theorem takeOut_eq_error {s : NameSelection} {ds : List (String × Removal)} {e : RegistryError}
    (h : takeOut s ds = .error e) :
    ∃ before d after, ds = before ++ d :: after ∧ Erasable s (before.map (·.2))
      ∧ ¬ d.2.In (s.without (before.map (·.2))) ∧ e = d.2.blame d.1 := by
  induction ds generalizing s with
  | nil => cases h
  | cons d ds ih =>
    rw [takeOut_cons] at h
    by_cases hd : d.2.In s
    · -- the run goes on, and stops somewhere in the rest
      rw [if_pos hd] at h
      obtain ⟨before, d', after, rfl, hbefore, hmissing, he⟩ := ih h
      refine ⟨d :: before, d', after, rfl, ?_, ?_, he⟩
      · rw [List.map_cons]
        exact erasable_cons.mpr ⟨hd, hbefore⟩
      · rwa [List.map_cons, ← without_cons]
    · rw [if_neg hd, Except.error.injEq] at h
      -- nothing was taken out before
      exact ⟨[], d, ds, rfl, erasable_nil s, by simpa using hd, h.symm⟩

/-! ### The two passes -/

/-- The selection of everything that features require. -/
def required (filter : Option String) (fs : List Feature) : NameSelection :=
  ⟨.ofList (requiredNames filter (·.commands) fs), .ofList (requiredNames filter (·.enums) fs),
    .ofList (requiredNames filter (·.types) fs)⟩

/-- Blocks add their names kind by kind, in the order in which they come. -/
theorem foldl_require (blocks : List RequireBlock) (s : NameSelection) :
    blocks.foldl require s = ⟨s.commands.insertAll (blocks.flatMap (·.commands.names)),
      s.enums.insertAll (blocks.flatMap (·.enums.names)),
      s.types.insertAll (blocks.flatMap (·.types.names))⟩ := by
  induction blocks generalizing s with
  | nil => rfl
  | cons b blocks ih =>
    simp only [List.foldl_cons, ih, require, NameSet.extend, NameSet.insertAll_insertAll,
      List.flatMap_cons]

/-- The pass over the require blocks. -/
theorem foldl_requireFeature (filter : Option String) (fs : List Feature) (s : NameSelection) :
    fs.foldl (requireFeature filter) s
      = ⟨s.commands.insertAll (requiredNames filter (·.commands) fs),
        s.enums.insertAll (requiredNames filter (·.enums) fs),
        s.types.insertAll (requiredNames filter (·.types) fs)⟩ := by
  -- feature by feature is block by block
  have hflat : fs.foldl (requireFeature filter) s
      = (fs.flatMap (·.requiresUnder filter)).foldl require s := by
    rw [List.foldl_flatMap]
    simp only [Feature.requiresUnder, ← applies_eq]
    rfl
  rw [hflat, foldl_require]
  simp only [requiredNames, List.flatMap_assoc]

/-- The pass over the remove blocks. -/
theorem foldlM_removeFeature (filter : Option String) (fs : List Feature) (s : NameSelection) :
    fs.foldlM (removeFeature filter) s = takeOut s (removals filter fs) := by
  rw [takeOut, removals, foldlM_flatMap]
  congr 1
  funext s f
  -- the same once more for the blocks of one feature
  have hblocks : removeFeature filter s f = (f.removesUnder filter).foldlM (remove f.name) s := by
    simp only [removeFeature, Feature.removesUnder, applies_eq]
  rw [hblocks, foldlM_flatMap]
  congr 1
  funext s b
  rw [remove, removalsOf, List.foldlM_append, List.foldlM_append]
  simp only [List.foldlM_map]

/-- **The two passes as one run.**  The erasures start from everything that is required. -/
theorem ofFeatures_eq (filter : Option String) (fs : List Feature) :
    ofFeatures filter fs = takeOut (required filter fs) (removals filter fs) := by
  rw [ofFeatures, foldl_requireFeature, foldlM_removeFeature]
  rfl

/-! ### Separately for commands and constants -/

/-- Can some names be taken out of others one after another?  Each must be there, and only once. -/
def Removable (required removed : List String) : Prop :=
  (∀ name ∈ removed, name ∈ required) ∧ removed.Nodup

instance (required removed : List String) : Decidable (Removable required removed) :=
  inferInstanceAs (Decidable (_ ∧ _))

/-- Removals repeat when they repeat a command or a constant. -/
theorem nodup_iff {xs : List Removal} :
    xs.Nodup ↔ (xs.filterMap Removal.command?).Nodup ∧ (xs.filterMap Removal.enum?).Nodup := by
  induction xs with
  | nil => simp
  | cons x xs ih =>
    -- a removal can only repeat one of its own kind
    cases x with
    | command name =>
      rw [List.nodup_cons, ih, ← mem_filterMap_command?, ← and_assoc, ← List.nodup_cons]
      rfl
    | enum name =>
      rw [List.nodup_cons, ih, ← mem_filterMap_enum?, and_left_comm, ← List.nodup_cons]
      rfl

/-- Removals of commands and of constants do not touch each other. -/
theorem erasable_iff {s : NameSelection} {xs : List Removal} :
    Erasable s xs ↔ Removable s.commands.names (xs.filterMap Removal.command?)
      ∧ Removable s.enums.names (xs.filterMap Removal.enum?) := by
  have hmem : (∀ x ∈ xs, x.In s)
      ↔ (∀ name ∈ xs.filterMap Removal.command?, name ∈ s.commands.names)
        ∧ ∀ name ∈ xs.filterMap Removal.enum?, name ∈ s.enums.names := by
    simp only [mem_filterMap_command?, mem_filterMap_enum?]
    constructor
    · exact fun h => ⟨fun _ hx => h _ hx, fun _ hx => h _ hx⟩
    · rintro ⟨hc, he⟩ (name | name) hx
      · exact hc name hx
      · exact he name hx
  rw [Erasable, hmem, nodup_iff, Removable, Removable, and_and_and_comm]

/-- Of the removals, the commands are those that the blocks list, in order. -/
theorem filterMap_command?_removals (filter : Option String) (fs : List Feature) :
    ((removals filter fs).map (·.2)).filterMap Removal.command?
      = removedNames filter (·.commands) fs := by
  simp [removals, removedNames, List.map_flatMap, List.filterMap_flatMap, List.filterMap_map,
    Function.comp_def, Removal.command?]

/-- And so are the constants. -/
theorem filterMap_enum?_removals (filter : Option String) (fs : List Feature) :
    ((removals filter fs).map (·.2)).filterMap Removal.enum?
      = removedNames filter (·.enums) fs := by
  simp [removals, removedNames, List.map_flatMap, List.filterMap_flatMap, List.filterMap_map,
    Function.comp_def, Removal.enum?]

/-- **The closed form for features.**  When the removals can be made, what is left are the first
occurrences of the required names, less the removed ones. -/
theorem ofFeatures_eq_ok {filter : Option String} {fs : List Feature} {s : NameSelection} :
    ofFeatures filter fs = .ok s ↔
      (Removable (requiredNames filter (·.commands) fs) (removedNames filter (·.commands) fs)
        ∧ Removable (requiredNames filter (·.enums) fs) (removedNames filter (·.enums) fs))
      ∧ s = ⟨(NameSet.ofList (requiredNames filter (·.commands) fs)).without
          (removedNames filter (·.commands) fs),
        (NameSet.ofList (requiredNames filter (·.enums) fs)).without
          (removedNames filter (·.enums) fs),
        .ofList (requiredNames filter (·.types) fs)⟩ := by
  rw [ofFeatures_eq, takeOut_eq_ok, erasable_iff, without, filterMap_command?_removals,
    filterMap_enum?_removals]
  simp only [required, Removable, NameSet.names_ofList, List.mem_eraseDups]

/-- Nothing is selected that is not required. -/
theorem required_of_ofFeatures_eq_ok {filter : Option String} {fs : List Feature}
    {s : NameSelection} (h : ofFeatures filter fs = .ok s) :
    (∀ name ∈ s.commands, name ∈ requiredNames filter (·.commands) fs)
      ∧ (∀ name ∈ s.enums, name ∈ requiredNames filter (·.enums) fs)
      ∧ ∀ name ∈ s.types, name ∈ requiredNames filter (·.types) fs := by
  obtain ⟨-, rfl⟩ := ofFeatures_eq_ok.mp h
  simp only [NameSet.mem_without, NameSet.mem_ofList]
  exact ⟨fun _ h => h.1, fun _ h => h.1, fun _ h => h⟩

/-! ### The first removal that cannot be made -/

/-- Do the features require what is to be taken out? -/
def Removal.RequiredBy (filter : Option String) (fs : List Feature) : Removal → Prop
  | .command name => name ∈ requiredNames filter (·.commands) fs
  | .enum name => name ∈ requiredNames filter (·.enums) fs

/-- Everything that is required is there before anything is taken out. -/
theorem in_required {filter : Option String} {fs : List Feature} {x : Removal} :
    x.In (required filter fs) ↔ x.RequiredBy filter fs := by
  cases x with
  | command name => exact NameSet.mem_ofList
  | enum name => exact NameSet.mem_ofList

/-- The first removal of some features whose name is not required, or was taken out already. -/
def FirstMissing (filter : Option String) (fs : List Feature) (d : String × Removal) : Prop :=
  ∃ before after, removals filter fs = before ++ d :: after
    ∧ (∀ x ∈ before, x.2.RequiredBy filter fs) ∧ (before.map (·.2)).Nodup
    ∧ (¬ d.2.RequiredBy filter fs ∨ d.2 ∈ before.map (·.2))

/-- **The two passes fail** at the first removal that cannot be made, and blame its feature. -/
theorem ofFeatures_eq_error {filter : Option String} {fs : List Feature} {e : RegistryError}
    (h : ofFeatures filter fs = .error e) :
    ∃ d, FirstMissing filter fs d ∧ e = d.2.blame d.1 := by
  rw [ofFeatures_eq] at h
  obtain ⟨before, d, after, hsplit, ⟨hin, hnd⟩, hmissing, he⟩ := takeOut_eq_error h
  refine ⟨d, ⟨before, after, hsplit, ?_, hnd, ?_⟩, he⟩
  · intro x hx
    exact in_required.mp (hin x.2 (List.mem_map_of_mem hx))
  · -- what is missing was never required, or is gone already
    rw [in_without, in_required, not_and_or, not_not] at hmissing
    exact hmissing

end NameSelection

/-! ### Consolidating a registry -/

/-- An api has no features when the registry declares none for it. -/
theorem featuresOf_isEmpty_iff {r : Registry} {api : String} :
    ((Catalog.ofRegistry r).featuresOf api).isEmpty = true ↔ api ∉ r.features.map (·.api) := by
  rw [Catalog.featuresOf_ofRegistry, List.isEmpty_iff, List.filter_eq_nil_iff, List.mem_map]
  simp

/-- Consolidating an api with features is the two passes over those up to the version. -/
theorem consolidate_eq {r : Registry} {api : String} (h : api ∈ r.features.map (·.api))
    (version : Version) (filter : Option String) :
    (Catalog.ofRegistry r).consolidate api version filter
      = ofFeatures filter (r.featuresUpTo api version) := by
  rw [Catalog.consolidate, featuresUpTo_ofRegistry, if_neg]
  rw [featuresOf_isEmpty_iff]
  exact fun hnot => hnot h

/-- An api without features is unknown, and the error tells the others. -/
theorem consolidate_of_unknown_api {r : Registry} {api : String}
    (h : api ∉ r.features.map (·.api)) (version : Version) (filter : Option String) :
    (Catalog.ofRegistry r).consolidate api version filter = .error (.unknown .api api
      ("apis declared by the registry: "
        ++ ", ".intercalate (r.features.map (·.api)).eraseDups)) := by
  rw [Catalog.consolidate, if_pos (featuresOf_isEmpty_iff.mpr h), Catalog.apis_ofRegistry]

/-- Only an api with features consolidates. -/
theorem ofFeatures_of_consolidate {r : Registry} {api : String} {version : Version}
    {filter : Option String} {s : NameSelection}
    (h : (Catalog.ofRegistry r).consolidate api version filter = .ok s) :
    ofFeatures filter (r.featuresUpTo api version) = .ok s := by
  rw [Catalog.consolidate, featuresUpTo_ofRegistry] at h
  split at h
  · cases h
  · exact h

/-- **Consolidation in closed form.**  An api with features consolidates exactly when every removed
command is required and removed once, and the same of constants.  The result are the first
occurrences of the required names less the removed ones, where no type is ever removed.  A failure
blames the first removal, of all in order, whose name is not required or was taken out already.
An api without features is unknown. -/
theorem consolidate_closed_form (r : Registry) (api : String) (version : Version)
    (filter : Option String) :
    (api ∈ r.features.map (·.api) →
      let fs := r.featuresUpTo api version
      let result := (Catalog.ofRegistry r).consolidate api version filter
      ((∃ s, result = .ok s) ↔
        Removable (requiredNames filter (·.commands) fs) (removedNames filter (·.commands) fs)
          ∧ Removable (requiredNames filter (·.enums) fs) (removedNames filter (·.enums) fs))
      ∧ (∀ s, result = .ok s →
        s.commands.names = (requiredNames filter (·.commands) fs).eraseDups.filter
            (· ∉ removedNames filter (·.commands) fs)
          ∧ s.enums.names = (requiredNames filter (·.enums) fs).eraseDups.filter
            (· ∉ removedNames filter (·.enums) fs)
          ∧ s.types.names = (requiredNames filter (·.types) fs).eraseDups)
      ∧ (∀ e, result = .error e → ∃ d, FirstMissing filter fs d ∧ e = d.2.blame d.1))
    ∧ (api ∉ r.features.map (·.api) →
      (Catalog.ofRegistry r).consolidate api version filter = .error (.unknown .api api
        ("apis declared by the registry: "
          ++ ", ".intercalate (r.features.map (·.api)).eraseDups))) := by
  refine ⟨fun h => ?_, fun h => ?_⟩
  · intro fs result
    have hresult : result = ofFeatures filter fs := consolidate_eq h version filter
    rw [hresult]
    refine ⟨?_, ?_, fun e he => ofFeatures_eq_error he⟩
    · simp only [ofFeatures_eq_ok]
      -- the result is determined, so only the conditions are left
      exact ⟨fun ⟨_, hr, _⟩ => hr, fun hr => ⟨_, hr, rfl⟩⟩
    · intro s hs
      obtain ⟨_, rfl⟩ := ofFeatures_eq_ok.mp hs
      simp only [NameSet.names_without, NameSet.names_ofList, and_self]
  · exact consolidate_of_unknown_api h version filter

/-- Two versions of `gl`; the later one takes a command and a constant away from the profile
`core`, and the command once more from the profile `es`. -/
def deprecating : Registry where
  types := []
  collections := []
  commands := []
  features := [
    { api := "gl", name := "GL_VERSION_1_0", number := .ofPair 1 0
      requires := [⟨.ofList ["GL_QUADS"], .ofList ["glBegin", "glClear"], .empty, none, none⟩]
      removes := [] },
    { api := "gl", name := "GL_VERSION_3_2", number := .ofPair 3 2
      requires := [⟨.empty, .ofList ["glFenceSync", "glClear"], .ofList ["GLsync"], none, none⟩]
      removes := [⟨.ofList ["GL_QUADS"], .ofList ["glBegin"], some "core", none⟩,
        ⟨.empty, .ofList ["glBegin"], some "es", none⟩] }]

/-- Up to the later version, both features count. -/
theorem featuresUpTo_deprecating :
    deprecating.featuresUpTo "gl" (.ofPair 3 2) = deprecating.features := by
  cbv

/-- For one profile the command is removed once, and for all profiles at a time twice. -/
theorem consolidate_deprecating :
    (∃ s, (Catalog.ofRegistry deprecating).consolidate "gl" (.ofPair 3 2) (some "core") = .ok s
      ∧ s.commands.names = ["glClear", "glFenceSync"] ∧ s.enums.names = []
      ∧ s.types.names = ["GLsync"])
    ∧ (∃ e, (Catalog.ofRegistry deprecating).consolidate "gl" (.ofPair 3 2) none = .error e
      ∧ ∃ d, FirstMissing none deprecating.features d ∧ e = d.2.blame d.1)
    ∧ (Catalog.ofRegistry deprecating).consolidate "vk" (.ofPair 1 0) none
      = .error (.unknown .api "vk" "apis declared by the registry: gl") := by
  refine ⟨?_, ?_, ?_⟩
  · have h := (consolidate_closed_form deprecating "gl" (.ofPair 3 2) (some "core")).1 (by decide)
    rw [featuresUpTo_deprecating] at h
    obtain ⟨hok, hresult, -⟩ := h
    obtain ⟨s, hs⟩ := hok.mpr (by decide)
    obtain ⟨hc, he, ht⟩ := hresult s hs
    exact ⟨s, hs, hc.trans (by decide), he.trans (by decide), ht.trans (by decide)⟩
  · have h := (consolidate_closed_form deprecating "gl" (.ofPair 3 2) none).1 (by decide)
    rw [featuresUpTo_deprecating] at h
    obtain ⟨hok, -, herror⟩ := h
    cases hr : (Catalog.ofRegistry deprecating).consolidate "gl" (.ofPair 3 2) none with
    | ok s => exact absurd (hok.mp ⟨s, hr⟩) (by decide)
    | error e => exact ⟨e, rfl, herror e hr⟩
  · exact (consolidate_closed_form deprecating "vk" (.ofPair 1 0) none).2 (by decide)

end GLBindings
