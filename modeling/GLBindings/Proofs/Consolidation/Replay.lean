import GLBindings.Proofs.Consolidation.ClosedForm

namespace GLBindings

open NameSelection

/-!
# Replay — the two passes as a history

Consolidating first collects everything that is required and then takes out everything that is
removed.  A reader of a registry rather thinks of one version after the other: each adds its names
and takes its removals away.  This file proves that both come to the same, names, order and errors,
as long as no name comes back after it was removed.

* `replay` — one feature after the other.
* `NoneReturns` — no feature requires what one before it removes.
* `takeOut_foldl_requireFeature` — removals commute with requirements of other names.
* `foldlM_replayFeature` — the simulation, from any names.
* `consolidate_eq_replay` — consolidating any registry.
-/

namespace NameSelection

/-! ### The history of some features -/

/-- Adds what a feature requires, then takes out what it removes. -/
def replayFeature (filter : Option String) (s : NameSelection) (f : Feature) :
    Except RegistryError NameSelection :=
  removeFeature filter (requireFeature filter s f) f

/-- The names after one feature after the other. -/
def replay (filter : Option String) (fs : List Feature) : Except RegistryError NameSelection :=
  fs.foldlM (replayFeature filter) empty

/-- No command that a feature removes, and no constant, is required by a feature behind it. -/
def NoneReturns (filter : Option String) (fs : List Feature) : Prop :=
  fs.Pairwise fun f g => ∀ b ∈ f.removesUnder filter, ∀ q ∈ g.requiresUnder filter,
    (∀ name ∈ b.commands, name ∉ q.commands) ∧ ∀ name ∈ b.enums, name ∉ q.enums

instance (filter : Option String) (fs : List Feature) : Decidable (NoneReturns filter fs) :=
  inferInstanceAs (Decidable (List.Pairwise _ fs))

section Commuting

variable {filter : Option String} {fs : List Feature} {s : NameSelection} {x : Removal}

/-! ### Requirements of other names -/

/-- Requirements of other names do not tell whether a removal can be made. -/
theorem in_foldl_requireFeature (h : ¬ x.RequiredBy filter fs) :
    x.In (fs.foldl (requireFeature filter) s) ↔ x.In s := by
  rw [foldl_requireFeature]
  cases x with
  | command name => exact NameSet.mem_insertAll.trans (or_iff_left h)
  | enum name => exact NameSet.mem_insertAll.trans (or_iff_left h)

/-- A removal can be made before or after requirements of other names. -/
theorem without_foldl_requireFeature (h : ¬ x.RequiredBy filter fs) :
    (fs.foldl (requireFeature filter) s).without [x]
      = fs.foldl (requireFeature filter) (s.without [x]) := by
  rw [foldl_requireFeature, foldl_requireFeature]
  cases x with
  | command name =>
    rw [without_command, without_command]
    have hother : ∀ other ∈ [name], other ∉ requiredNames filter (·.commands) fs :=
      List.forall_mem_singleton.mpr h
    rw [NameSet.without_insertAll hother]
  | enum name =>
    rw [without_enum, without_enum]
    have hother : ∀ other ∈ [name], other ∉ requiredNames filter (·.enums) fs :=
      List.forall_mem_singleton.mpr h
    rw [NameSet.without_insertAll hother]

/-- **Removals commute with requirements of other names.**  A run of them ends alike, with the same
error or with what the requirements make of its result. -/
theorem takeOut_foldl_requireFeature {ds : List (String × Removal)}
    (h : ∀ d ∈ ds, ¬ d.2.RequiredBy filter fs) (s : NameSelection) :
    takeOut (fs.foldl (requireFeature filter) s) ds
      = (takeOut s ds).map (fs.foldl (requireFeature filter)) := by
  induction ds generalizing s with
  | nil => rfl
  | cons d ds ih =>
    obtain ⟨hd, hds⟩ := List.forall_mem_cons.mp h
    -- the first removal moves past the requirements, and the rest by induction
    rw [takeOut_cons, takeOut_cons, without_foldl_requireFeature hd, ih hds]
    by_cases hin : d.2.In s
    · rw [if_pos ((in_foldl_requireFeature hd).mpr hin), if_pos hin]
    · rw [if_neg ((in_foldl_requireFeature hd).not.mpr hin), if_neg hin]
      rfl

/-- What a feature removes is not required behind it. -/
theorem NoneReturns.not_requiredBy {f : Feature} (h : NoneReturns filter (f :: fs))
    {d : String × Removal} (hd : d ∈ removals filter [f]) : ¬ d.2.RequiredBy filter fs := by
  obtain ⟨g, hg, b, hb, hlisted⟩ := mem_removals.mp hd
  obtain rfl := List.mem_singleton.mp hg
  have hapart : ∀ k ∈ fs, ∀ q ∈ k.requiresUnder filter,
      (∀ name ∈ b.commands, name ∉ q.commands) ∧ ∀ name ∈ b.enums, name ∉ q.enums :=
    fun k hk => (List.pairwise_cons.mp h).1 k hk b hb
  intro hrequired
  -- commands are apart from commands, and constants from constants
  rcases hlisted with ⟨name, hname, rfl⟩ | ⟨name, hname, rfl⟩
  · obtain ⟨k, hk, q, hq, hmem⟩ := mem_requiredNames.mp hrequired
    exact (hapart k hk q hq).1 name hname hmem
  · obtain ⟨k, hk, q, hq, hmem⟩ := mem_requiredNames.mp hrequired
    exact (hapart k hk q hq).2 name hname hmem

/-! ### The simulation -/

/-- A feature removes its names from what it and the features behind it require as from what it
requires itself. -/
theorem removeFeature_foldl_requireFeature {f : Feature} (h : NoneReturns filter (f :: fs))
    (s : NameSelection) :
    removeFeature filter (fs.foldl (requireFeature filter) s) f
      = (removeFeature filter s f).map (fs.foldl (requireFeature filter)) := by
  -- the removals of one feature are a run of their own
  have hrun : ∀ s, removeFeature filter s f = takeOut s (removals filter [f]) := by
    intro s
    rw [← foldlM_removeFeature, List.foldlM_cons]
    cases removeFeature filter s f <;> rfl
  rw [hrun, hrun, takeOut_foldl_requireFeature fun d hd => h.not_requiredBy hd]

/-- **The simulation.**  From any names, requiring everything and then removing everything is the
same as going from feature to feature. -/
theorem foldlM_replayFeature (h : NoneReturns filter fs) (s : NameSelection) :
    fs.foldlM (removeFeature filter) (fs.foldl (requireFeature filter) s)
      = fs.foldlM (replayFeature filter) s := by
  induction fs generalizing s with
  | nil => rfl
  | cons f fs ih =>
    -- the removals of `f` move in front of what the features behind it require
    rw [List.foldl_cons, List.foldlM_cons, List.foldlM_cons,
      removeFeature_foldl_requireFeature h, replayFeature]
    cases removeFeature filter (requireFeature filter s f) f with
    | error e => rfl
    | ok t => exact ih (List.pairwise_cons.mp h).2 t

end Commuting

end NameSelection

/-! ### Consolidating a registry -/

/-- **Consolidation is a replay.**  For an api with features of which none requires again what one
before it removed, consolidating is the replay of the features up to the version: the names are the
same in the same order, or the error is the same.  An api without features is unknown, although
there is nothing to replay. -/
theorem consolidate_eq_replay (r : Registry) (api : String) (version : Version)
    (filter : Option String) (h : NoneReturns filter (r.featuresUpTo api version)) :
    (api ∈ r.features.map (·.api) →
      (Catalog.ofRegistry r).consolidate api version filter
        = replay filter (r.featuresUpTo api version))
    ∧ (api ∉ r.features.map (·.api) →
      (Catalog.ofRegistry r).consolidate api version filter = .error (.unknown .api api
        ("apis declared by the registry: "
          ++ ", ".intercalate (r.features.map (·.api)).eraseDups))) := by
  constructor
  · intro hapi
    -- both passes start from nothing
    rw [consolidate_eq hapi, ofFeatures, replay]
    exact foldlM_replayFeature h empty
  · intro hapi
    exact consolidate_of_unknown_api hapi version filter

/-- The history of `deprecating` for one profile, and for all profiles at a time, where its last
removal finds nothing to remove. -/
theorem replay_deprecating :
    (∃ s, (Catalog.ofRegistry deprecating).consolidate "gl" (.ofPair 3 2) (some "core") = .ok s
      ∧ replay (some "core") deprecating.features = .ok s
      ∧ s.commands.names = ["glClear", "glFenceSync"])
    ∧ ∃ e, (Catalog.ofRegistry deprecating).consolidate "gl" (.ofPair 3 2) none = .error e
      ∧ replay none deprecating.features = .error e := by
  -- what the registry declares for the api is all that it declares
  have hreplay : ∀ filter, NoneReturns filter deprecating.features →
      (Catalog.ofRegistry deprecating).consolidate "gl" (.ofPair 3 2) filter
        = replay filter deprecating.features := by
    intro filter h
    have hspec := consolidate_eq_replay deprecating "gl" (.ofPair 3 2) filter
    rw [featuresUpTo_deprecating] at hspec
    exact (hspec h).1 (by decide)
  constructor
  · rw [hreplay (some "core") (by decide)]
    exact ⟨_, rfl, rfl, rfl⟩
  · rw [hreplay none (by decide)]
    exact ⟨_, rfl, rfl⟩

/-- **Apis without features.**  There is nothing to replay, and so nothing that returns, but
consolidating fails. -/
theorem replay_unknown_api :
    NoneReturns none (deprecating.featuresUpTo "vk" (.ofPair 1 0))
    ∧ replay none (deprecating.featuresUpTo "vk" (.ofPair 1 0)) = .ok .empty
    ∧ ∀ s, (Catalog.ofRegistry deprecating).consolidate "vk" (.ofPair 1 0) none ≠ .ok s := by
  have hfeatures : deprecating.featuresUpTo "vk" (.ofPair 1 0) = [] := by cbv
  rw [hfeatures]
  refine ⟨List.Pairwise.nil, rfl, fun s hs => ?_⟩
  rw [consolidate_of_unknown_api (by decide)] at hs
  cases hs

end GLBindings
