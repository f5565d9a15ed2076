import GLBindings.Proofs.Consolidation.ClosedForm

namespace GLBindings

open NameSelection

/-!
# Rearrangement — the order of declarations does not decide what is selected

Taking a name out fails when it is not there, and changes what the next removal meets.  Still it
does not matter in which order the features of an api are declared, nor in which order the blocks
of a feature are: this file proves that two registries which differ in nothing else, as far as an
api and a version are concerned, consolidate alike.

* `Feature.SameBlocks` — two features have the same blocks in some order.
* `Rearranged` — some features are others in another order, up to the order of their blocks.
* `Rearranged.perm_flatMap` — what they list is the same, in another order.
* `Removable.congr_perm` — whether removals can be made depends on what is listed only.
* `consolidate_rearranged` — what this means for the results.
-/

/-! ### Features in another order -/

/-- The same blocks in some order.  What the features are called does not count. -/
structure Feature.SameBlocks (f g : Feature) : Prop where
  requires : f.requires.Perm g.requires
  removes : f.removes.Perm g.removes

/-- The features `gs` are `fs` in some order, each with its blocks in some order. -/
def Rearranged (fs gs : List Feature) : Prop :=
  ∃ hs, fs.Perm hs ∧ List.Forall₂ Feature.SameBlocks hs gs

section Listed

variable {fs gs : List Feature}

/-- What features list is rearranged with them, provided that one feature and another with the same
blocks list the same in some order. -/
theorem Rearranged.perm_flatMap {part : Feature → List String}
    (hpart : ∀ f g, f.SameBlocks g → (part f).Perm (part g)) (h : Rearranged fs gs) :
    (fs.flatMap part).Perm (gs.flatMap part) := by
  obtain ⟨hs, hperm, hsame⟩ := h
  refine (hperm.flatMap_right part).trans ?_
  clear hperm
  -- the features now correspond one for one
  induction hsame with
  | nil => exact .nil
  | cons hfg _ ih => exact (hpart _ _ hfg).append ih

/-- Rearranged features require the same names as often. -/
theorem Rearranged.perm_requiredNames (h : Rearranged fs gs) (filter : Option String)
    (part : RequireBlock → NameSet) :
    (requiredNames filter part fs).Perm (requiredNames filter part gs) :=
  h.perm_flatMap fun _ _ hfg => (hfg.requires.filter _).flatMap_right _

/-- And they remove the same names as often. -/
theorem Rearranged.perm_removedNames (h : Rearranged fs gs) (filter : Option String)
    (part : RemoveBlock → NameSet) :
    (removedNames filter part fs).Perm (removedNames filter part gs) :=
  h.perm_flatMap fun _ _ hfg => (hfg.removes.filter _).flatMap_right _

end Listed

/-! ### Names in another order -/

section Names

variable {required required' removed removed' : List String}

/-- Whether names can be taken out one after another depends on which there are, and on which are to
be taken out how often. -/
theorem Removable.congr_perm (hrequired : required.Perm required')
    (hremoved : removed.Perm removed') :
    Removable required removed ↔ Removable required' removed' := by
  simp only [Removable, hrequired.mem_iff, hremoved.mem_iff, hremoved.nodup_iff]

/-- What is left is the same in another order. -/
theorem NameSet.perm_without (hrequired : required.Perm required')
    (hremoved : removed.Perm removed') :
    ((ofList required).without removed).names.Perm ((ofList required').without removed').names := by
  -- names are listed once on both sides, so only membership counts
  rw [List.perm_ext_iff_of_nodup (NameSet.nodup _) (NameSet.nodup _)]
  intro name
  simp only [← mem_def, mem_without, mem_ofList, hrequired.mem_iff, hremoved.mem_iff]

end Names

/-! ### Consolidating two registries -/

/-- **The order of declarations.**  Two registries whose features of an api up to a version are the
same in another order, each with its blocks in another order, consolidate together or not at all.
When they do, the selected commands, constants and types are the same in another order.  Whatever
else the registries declare does not count, as long as both have features of the api. -/
theorem consolidate_rearranged (r q : Registry) (api : String) (version : Version)
    (filter : Option String) (hr : api ∈ r.features.map (·.api)) (hq : api ∈ q.features.map (·.api))
    (h : Rearranged (r.featuresUpTo api version) (q.featuresUpTo api version)) :
    ((∃ s, (Catalog.ofRegistry r).consolidate api version filter = .ok s)
      ↔ ∃ t, (Catalog.ofRegistry q).consolidate api version filter = .ok t)
    ∧ ∀ s t, (Catalog.ofRegistry r).consolidate api version filter = .ok s →
      (Catalog.ofRegistry q).consolidate api version filter = .ok t →
      s.commands.names.Perm t.commands.names ∧ s.enums.names.Perm t.enums.names
        ∧ s.types.names.Perm t.types.names := by
  rw [consolidate_eq hr, consolidate_eq hq]
  -- conditions and results mention nothing but the names that are listed, and how often
  have hcommands := Removable.congr_perm (h.perm_requiredNames filter (·.commands))
    (h.perm_removedNames filter (·.commands))
  have henums := Removable.congr_perm (h.perm_requiredNames filter (·.enums))
    (h.perm_removedNames filter (·.enums))
  constructor
  · simp only [ofFeatures_eq_ok, exists_and_left, exists_eq, and_true]
    exact and_congr hcommands henums
  · intro s t hs ht
    obtain ⟨-, rfl⟩ := ofFeatures_eq_ok.mp hs
    obtain ⟨-, rfl⟩ := ofFeatures_eq_ok.mp ht
    refine ⟨?_, ?_, ?_⟩
    · exact NameSet.perm_without (h.perm_requiredNames _ _) (h.perm_removedNames _ _)
    · exact NameSet.perm_without (h.perm_requiredNames _ _) (h.perm_removedNames _ _)
    · -- types are never removed
      have htypes := NameSet.perm_without (h.perm_requiredNames filter (·.types))
        (List.Perm.refl [])
      simpa using htypes

/-- The versions of `deprecating` in the opposite order, the removals of the later one too, behind a
version of another api. -/
def deprecatingBackwards : Registry where
  types := []
  collections := []
  commands := []
  features := [
    { api := "gles2", name := "GL_ES_VERSION_2_0", number := .ofPair 2 0
      requires := [], removes := [⟨.empty, .ofList ["glBegin"], none, none⟩] },
    { api := "gl", name := "GL_VERSION_3_2", number := .ofPair 3 2
      requires := [⟨.empty, .ofList ["glFenceSync", "glClear"], .ofList ["GLsync"], none, none⟩]
      removes := [⟨.empty, .ofList ["glBegin"], some "es", none⟩,
        ⟨.ofList ["GL_QUADS"], .ofList ["glBegin"], some "core", none⟩] },
    { api := "gl", name := "GL_VERSION_1_0", number := .ofPair 1 0
      requires := [⟨.ofList ["GL_QUADS"], .ofList ["glBegin", "glClear"], .empty, none, none⟩]
      removes := [] }]

/-- Both consolidate for one profile, with the commands in another order, and neither does for all
profiles at a time. -/
theorem rearranged_deprecating :
    (∃ s t, (Catalog.ofRegistry deprecating).consolidate "gl" (.ofPair 3 2) (some "core") = .ok s
      ∧ (Catalog.ofRegistry deprecatingBackwards).consolidate "gl" (.ofPair 3 2) (some "core")
        = .ok t
      ∧ s.commands.names = ["glClear", "glFenceSync"]
      ∧ t.commands.names = ["glFenceSync", "glClear"]
      ∧ s.commands.names.Perm t.commands.names)
    ∧ (¬ ∃ s, (Catalog.ofRegistry deprecating).consolidate "gl" (.ofPair 3 2) none = .ok s)
    ∧ ¬ ∃ t, (Catalog.ofRegistry deprecatingBackwards).consolidate "gl" (.ofPair 3 2) none
      = .ok t := by
  have hfeatures : deprecatingBackwards.featuresUpTo "gl" (.ofPair 3 2)
      = deprecatingBackwards.features.drop 1 := by
    cbv
  have hrearranged : Rearranged (deprecating.featuresUpTo "gl" (.ofPair 3 2))
      (deprecatingBackwards.featuresUpTo "gl" (.ofPair 3 2)) := by
    rw [featuresUpTo_deprecating, hfeatures]
    refine ⟨_, .swap _ _ [], .cons ⟨.refl _, .swap _ _ []⟩ (.cons ⟨.refl _, .refl _⟩ .nil)⟩
  have hspec := fun filter => consolidate_rearranged deprecating deprecatingBackwards "gl"
    (.ofPair 3 2) filter (by decide) (by decide) hrearranged
  constructor
  · obtain ⟨hboth, hperm⟩ := hspec (some "core")
    obtain ⟨s, hs, hnames⟩ : ∃ s, ofFeatures (some "core") deprecating.features = .ok s
      ∧ s.commands.names = ["glClear", "glFenceSync"] := ⟨_, rfl, rfl⟩
    rw [← featuresUpTo_deprecating, ← consolidate_eq (by decide)] at hs
    obtain ⟨t, ht⟩ := hboth.mp ⟨s, hs⟩
    have hlater := ofFeatures_of_consolidate ht
    rw [hfeatures] at hlater
    obtain rfl := Except.ok.inj hlater
    exact ⟨s, _, hs, ht, hnames, rfl, (hperm s _ hs ht).1⟩
  · rw [← (hspec none).1, and_self, not_ok_iff, consolidate_eq (by decide),
      featuresUpTo_deprecating]
    exact ⟨_, rfl⟩

end GLBindings
