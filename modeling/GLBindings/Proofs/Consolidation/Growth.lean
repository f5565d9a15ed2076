import GLBindings.Proofs.Consolidation.ClosedForm
import GLBindings.Proofs.Version

namespace GLBindings

open NameSelection

/-!
# Growth — what a later version keeps and adds

A later version of an api takes in more features, which bring names and take names away.  This file
compares the results of consolidating two versions.

* `Registry.featuresBetween` — the features that only the later version takes in.
* `mem_featuresUpTo`, `featuresUpTo_eq_append` — they come on top of the others, and behind them
  when the features are declared in the order of their versions.
* `NameSet.Continues` — some names are dropped from a set, and others come behind it.
* `consolidate_grows` — what this means for the results.
-/

/-! ### Features of later versions -/

/-- The features of an api after one version and up to another, in order. -/
def Registry.featuresBetween (r : Registry) (api : String) (version later : Version) :
    List Feature :=
  r.features.filter fun f => f.api = api ∧ ¬ f.number.UpTo version ∧ f.number.UpTo later

/-- The features of an api are declared in the order of their versions. -/
def Registry.InOrder (r : Registry) (api : String) : Prop :=
  (r.features.filter (·.api == api)).Pairwise fun f g => f.number.UpTo g.number

section Features

variable {r : Registry} {api : String} {version later : Version}

/-- In a list in some order, what satisfies a condition that is inherited downwards comes first. -/
theorem filter_append_filter_not {α : Type} {R : α → α → Prop} {p : α → Bool}
    (hp : ∀ a b, R a b → p b = true → p a = true) {l : List α} (h : l.Pairwise R) :
    l.filter p ++ l.filter (fun a => !p a) = l := by
  induction h with
  | nil => rfl
  | @cons a l ha _ ih =>
    cases hpa : p a with
    | true => simp [hpa, ih]
    | false =>
      -- nothing behind `a` can satisfy the condition either
      have hl : ∀ b ∈ l, p b = false := by
        intro b hb
        by_contra hpb
        rw [hp a b (ha b hb) (by simpa using hpb)] at hpa
        cases hpa
      have hnone : l.filter p = [] := List.filter_eq_nil_iff.mpr fun b hb => by simp [hl b hb]
      have hall : l.filter (fun b => !p b) = l :=
        List.filter_eq_self.mpr fun b hb => by simp [hl b hb]
      simp [hpa, hnone, hall]

/-- The features in between are those up to the later version less those up to the earlier one. -/
theorem featuresBetween_eq (r : Registry) (api : String) (version later : Version) :
    r.featuresBetween api version later
      = (r.featuresUpTo api later).filter fun f => !decide (f.number.UpTo version) := by
  rw [Registry.featuresBetween, Registry.featuresUpTo, List.filter_filter]
  refine List.filter_congr fun f _ => ?_
  simp only [Bool.decide_and, decide_not, Bool.and_left_comm]

/-- Of the features up to the later version, those up to the earlier one. -/
theorem featuresUpTo_eq (hle : version.UpTo later) :
    r.featuresUpTo api version = (r.featuresUpTo api later).filter (·.number.UpTo version) := by
  rw [Registry.featuresUpTo, Registry.featuresUpTo, List.filter_filter]
  refine List.filter_congr fun f _ => ?_
  rw [← Bool.decide_and, decide_eq_decide]
  -- what is up to the earlier version is up to the later one too
  constructor
  · rintro ⟨hapi, h⟩
    exact ⟨h, hapi, h.trans hle⟩
  · rintro ⟨h, hapi, -⟩
    exact ⟨hapi, h⟩

/-- A later version takes in the features up to the earlier one and those in between. -/
theorem mem_featuresUpTo (hle : version.UpTo later) {f : Feature} :
    f ∈ r.featuresUpTo api later
      ↔ f ∈ r.featuresUpTo api version ∨ f ∈ r.featuresBetween api version later := by
  rw [featuresUpTo_eq hle, featuresBetween_eq, List.mem_filter, List.mem_filter, ← and_or_left]
  cases decide (f.number.UpTo version) <;> simp

/-- **Declared in order**, the features in between stand behind those up to the earlier version. -/
theorem featuresUpTo_eq_append (hle : version.UpTo later) (h : r.InOrder api) :
    r.featuresUpTo api later
      = r.featuresUpTo api version ++ r.featuresBetween api version later := by
  -- a part of the features of the api, which are in order
  have hsorted : (r.featuresUpTo api later).Pairwise fun f g => f.number.UpTo g.number := by
    have hfilter : r.featuresUpTo api later
        = (r.features.filter (·.api == api)).filter (·.number.UpTo later) := by
      rw [Registry.featuresUpTo, List.filter_filter]
      refine List.filter_congr fun f _ => ?_
      rw [Bool.decide_and, Bool.and_comm]
      rfl
    rw [hfilter]
    exact h.filter _
  rw [featuresUpTo_eq hle, featuresBetween_eq]
  -- what is not above a feature up to the earlier version is up to it too
  refine (filter_append_filter_not (fun f g hfg hg => ?_) hsorted).symm
  exact decide_eq_true (hfg.trans (of_decide_eq_true hg))

/-! ### Their names -/

variable {filter : Option String}

/-- A later version requires what an earlier one does. -/
theorem mem_requiredNames_of_le (hle : version.UpTo later) {part : RequireBlock → NameSet}
    {name : String} (h : name ∈ requiredNames filter part (r.featuresUpTo api version)) :
    name ∈ requiredNames filter part (r.featuresUpTo api later) := by
  obtain ⟨f, hf, hblock⟩ := mem_requiredNames.mp h
  exact mem_requiredNames.mpr ⟨f, (mem_featuresUpTo hle).mpr (.inl hf), hblock⟩

/-- A later version removes what an earlier one does, and what the features in between do. -/
theorem mem_removedNames_iff (hle : version.UpTo later) {part : RemoveBlock → NameSet}
    {name : String} : name ∈ removedNames filter part (r.featuresUpTo api later)
      ↔ name ∈ removedNames filter part (r.featuresUpTo api version)
        ∨ name ∈ removedNames filter part (r.featuresBetween api version later) := by
  simp only [removedNames, List.mem_flatMap, mem_featuresUpTo hle, or_and_right, exists_or]

/-- A name that an earlier version has stays, unless a feature in between removes it. -/
theorem mem_without_iff (hle : version.UpTo later) {part : RequireBlock → NameSet}
    {gone : RemoveBlock → NameSet} {name : String}
    (h : name ∈ (NameSet.ofList (requiredNames filter part (r.featuresUpTo api version))).without
      (removedNames filter gone (r.featuresUpTo api version))) :
    name ∈ (NameSet.ofList (requiredNames filter part (r.featuresUpTo api later))).without
        (removedNames filter gone (r.featuresUpTo api later))
      ↔ name ∉ removedNames filter gone (r.featuresBetween api version later) := by
  rw [NameSet.mem_without, NameSet.mem_ofList] at h ⊢
  obtain ⟨hrequired, hkept⟩ := h
  rw [mem_removedNames_iff hle, not_or]
  exact ⟨fun h => h.2.2, fun h => ⟨mem_requiredNames_of_le hle hrequired, hkept, h⟩⟩

end Features

/-! ### Sets that go on -/

namespace NameSet

/-- The set `new` goes on where `old` ends, after some names were dropped from it.  None of the
names that come behind was in `old`. -/
def Continues (old : NameSet) (dropped : List String) (new : NameSet) : Prop :=
  ∃ more, new.names = old.names.filter (· ∉ dropped) ++ more ∧ ∀ name ∈ more, name ∉ old

/-- More required names come behind the others, and more removed names are dropped. -/
theorem continues_without (required later removed dropped : List String) :
    ((ofList required).without removed).Continues dropped
      ((ofList (required ++ later)).without (removed ++ dropped)) := by
  -- what comes behind are the first occurrences of names that were not required before
  refine ⟨(later.removeAll required).eraseDups.filter (· ∉ removed ++ dropped), ?_, ?_⟩
  · have hdropped : required.eraseDups.filter (· ∉ removed ++ dropped)
        = (required.eraseDups.filter (· ∉ removed)).filter (· ∉ dropped) := by
      rw [List.filter_filter]
      refine List.filter_congr fun name _ => ?_
      simp [Bool.and_comm]
    -- first occurrences of joined lists are those of the first, and then new ones
    rw [names_without, names_without, names_ofList, names_ofList, List.eraseDups_append,
      List.filter_append, hdropped]
  · intro name hname hold
    rw [mem_without, mem_ofList] at hold
    have hlater := List.mem_eraseDups.mp (List.mem_filter.mp hname).1
    rw [List.removeAll, List.mem_filter] at hlater
    -- a name of the old set was required before
    simp [hold.1] at hlater

end NameSet

/-! ### Consolidating two versions -/

/-- **Growth with the version.**  A later version has all types of an earlier one, and of its
commands and constants those that no feature in between removes.  When the features of the api are
declared in the order of their versions, the commands and constants of the later version are these,
in the order that they had, followed by new ones, and its types are those of the earlier version
followed by others. -/
theorem consolidate_grows (r : Registry) (api : String) (filter : Option String)
    (version later : Version) (s t : NameSelection) (hle : version.UpTo later)
    (hs : (Catalog.ofRegistry r).consolidate api version filter = .ok s)
    (ht : (Catalog.ofRegistry r).consolidate api later filter = .ok t) :
    let between := r.featuresBetween api version later
    (s.types ⊆ t.types
      ∧ (∀ name ∈ s.commands, name ∈ t.commands ↔ name ∉ removedNames filter (·.commands) between)
      ∧ ∀ name ∈ s.enums, name ∈ t.enums ↔ name ∉ removedNames filter (·.enums) between)
    ∧ (r.InOrder api →
      s.commands.Continues (removedNames filter (·.commands) between) t.commands
        ∧ s.enums.Continues (removedNames filter (·.enums) between) t.enums
        ∧ s.types.names <+: t.types.names) := by
  -- both results are known in closed form
  obtain ⟨-, rfl⟩ := ofFeatures_eq_ok.mp (ofFeatures_of_consolidate hs)
  obtain ⟨-, rfl⟩ := ofFeatures_eq_ok.mp (ofFeatures_of_consolidate ht)
  refine ⟨⟨?_, ?_, ?_⟩, fun hsorted => ?_⟩
  · intro name hname
    rw [NameSet.names_ofList, List.mem_eraseDups] at hname ⊢
    exact mem_requiredNames_of_le hle hname
  · exact fun name hname => mem_without_iff hle hname
  · exact fun name hname => mem_without_iff hle hname
  · -- in order, the lists of the later version begin with those of the earlier one
    rw [featuresUpTo_eq_append hle hsorted]
    simp only [requiredNames, removedNames, List.flatMap_append]
    refine ⟨NameSet.continues_without _ _ _ _, NameSet.continues_without _ _ _ _, ?_⟩
    rw [NameSet.names_ofList, NameSet.names_ofList, List.eraseDups_append]
    exact List.prefix_append _ _

/-- The later version of `deprecating` drops the command that it removes, and brings one. -/
theorem grows_deprecating :
    ∃ s t, (Catalog.ofRegistry deprecating).consolidate "gl" (.ofPair 1 0) (some "core") = .ok s
      ∧ (Catalog.ofRegistry deprecating).consolidate "gl" (.ofPair 3 2) (some "core") = .ok t
      ∧ s.commands.names = ["glBegin", "glClear"]
      ∧ "glBegin" ∉ t.commands
      ∧ s.commands.Continues ["glBegin"] t.commands := by
  have hfirst : deprecating.featuresUpTo "gl" (.ofPair 1 0) = deprecating.features.take 1 := by
    cbv
  have hbetween : deprecating.featuresBetween "gl" (.ofPair 1 0) (.ofPair 3 2)
      = deprecating.features.drop 1 := by
    cbv
  have hle : (Version.ofPair 1 0).UpTo (.ofPair 3 2) := Version.le_iff_upTo.mp (by cbv)
  have horder : deprecating.InOrder "gl" := by
    have hall : deprecating.features.filter (·.api == "gl") = deprecating.features := rfl
    rw [Registry.InOrder, hall]
    exact List.pairwise_pair.mpr hle
  obtain ⟨s, hs, hnames⟩ : ∃ s, ofFeatures (some "core") (deprecating.features.take 1) = .ok s
    ∧ s.commands.names = ["glBegin", "glClear"] := ⟨_, rfl, rfl⟩
  obtain ⟨t, ht⟩ : ∃ t, ofFeatures (some "core") deprecating.features = .ok t := ⟨_, rfl⟩
  rw [← hfirst, ← consolidate_eq (by decide)] at hs
  rw [← featuresUpTo_deprecating, ← consolidate_eq (by decide)] at ht
  obtain ⟨⟨-, hcommands, -⟩, hgrows⟩ := consolidate_grows deprecating "gl" (some "core")
    (.ofPair 1 0) (.ofPair 3 2) s t hle hs ht
  have hremoved : removedNames (some "core") (·.commands)
      (deprecating.featuresBetween "gl" (.ofPair 1 0) (.ofPair 3 2)) = ["glBegin"] := by
    rw [hbetween]
    rfl
  rw [hremoved] at hcommands hgrows
  refine ⟨s, t, hs, ht, hnames, ?_, (hgrows horder).1⟩
  have hold : "glBegin" ∈ s.commands := by
    rw [NameSet.mem_def, hnames]
    decide
  rw [hcommands "glBegin" hold]
  decide

end GLBindings
