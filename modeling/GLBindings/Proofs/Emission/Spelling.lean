import GLBindings.Emission.Bindings
import GLBindings.Proofs.Consolidation.ClosedForm
import GLBindings.Proofs.Version

namespace GLBindings

/-!
# Spelling — a target version may be written in several ways

`3`, `3.0` and ` +3.00 ` are one version.  Being accepted is a question of equality, the features
up to a version one of order, and only the label shows what was written.  This file proves that two
spellings of a version select the same bindings.

* `contains_iff` — a list of versions has a number under any spelling.
* `resolve_eq_ok` — which targets are accepted, and as which selection.
* `Selection.SameTarget` — two selections that differ in the spelling of their versions at most;
  `consolidate_eq_of_sameTarget` — they have the same names.
* `Context.SameButLabel` — two contexts have the same bindings, up to the labels of the headers.
* `spelling_spec` — what this means for two texts.
-/

/-! ### Lists of versions -/

namespace Version

variable {v w : Version}

/-- A list of versions has a number when it has some spelling of it. -/
theorem contains_iff {versions : List Version} :
    versions.contains v = true ↔ ∃ u ∈ versions, u.SameNumber v := by
  rw [List.contains_iff_exists_mem_beq]
  simp only [BEq.comm (a := v), beq_iff]

/-- The order does not tell spellings of one number apart. -/
theorem le_eq_of_sameNumber (h : v.SameNumber w) (u : Version) : u.le v = u.le w := by
  have heq : v.compare w = .eq := compare_eq_eq.mpr h
  rw [le, le, Std.TransCmp.congr_right heq]

end Version

/-! ### Selections -/

namespace Selection

/-- A target is accepted when its api is in the table and its version is listed in some spelling. -/
theorem resolve_eq_ok {known : KnownVersions} {api text : String} {profile : Option String}
    {s : Selection} :
    resolve known api text profile = .ok s ↔ ∃ accepted v, known.find? api = some accepted
      ∧ Version.parse? text = .ok v ∧ (∃ u ∈ accepted, u.SameNumber v)
      ∧ s = ⟨api, v, profile.filter (· ≠ "")⟩ := by
  rw [resolve]
  -- an unknown api, an unreadable version, and a version that is not listed are refused in turn
  cases hapi : known.find? api with
  | none => simp
  | some accepted =>
    cases hparse : Version.parse? text with
    | error e => simp
    | ok v =>
      have hlisted : (∃ u ∈ accepted, u.SameNumber v) ↔ accepted.contains v = true :=
        Version.contains_iff.symm
      simp only [Option.some.injEq, Except.ok.injEq, exists_and_left, exists_eq_left', hlisted]
      split
      · rename_i h
        simp only [h, true_and, Except.ok.injEq]
        exact eq_comm
      · rename_i h
        simp [h]

/-- Two selections differ in nothing but the spelling of their versions. -/
structure SameTarget (s t : Selection) : Prop where
  api : s.api = t.api
  version : s.version.SameNumber t.version
  profile : s.profile = t.profile

/-- Selections of one target have the same names, or fail with the same error. -/
theorem consolidate_eq_of_sameTarget {s t : Selection} (h : s.SameTarget t) (c : Catalog) :
    s.consolidate c = t.consolidate c := by
  -- the version only comes in through the features up to it
  have hfeatures : c.featuresUpTo s.api s.version = c.featuresUpTo t.api t.version := by
    rw [Catalog.featuresUpTo, Catalog.featuresUpTo, h.api]
    exact List.filter_congr fun f _ => Version.le_eq_of_sameNumber h.version f.number
  rw [consolidate, consolidate, Catalog.consolidate, Catalog.consolidate, hfeatures, h.api,
    h.profile]

end Selection

/-! ### Bindings -/

namespace Context

/-- The files of the one context are those of the other, up to the labels of the headers. -/
structure SameButLabel (x y : Context) : Prop where
  /-- The loaders are byte for byte the same. -/
  loader : y.cLoader.map CLoader.file = x.cLoader.map CLoader.file
  header : y.cHeader = x.cHeader.map fun h => { h with label := y.label }
  wrapping : y.cppHeader = x.cppHeader.map fun h => { h with label := y.label }

/-- A selection comes into the bindings of given names by its label alone. -/
theorem sameButLabel (x : Context) (t : Selection) : x.SameButLabel { x with selection := t } where
  loader := rfl
  header := by
    simp only [cHeader, map_bind]
    rfl
  wrapping := by
    simp only [cppHeader, map_bind]
    rfl

end Context

/-! ### Two texts for one version -/

/-- **The spelling of a version.**  Let two texts be read as one number.  Both are accepted for an
api, or neither is; they are when the api is in the table and one of its versions is this number.
The two selections then have the same names in every catalog, or the same error.  Whatever the names
and the stem, the loaders are the same, and the headers differ in their labels at most. -/
theorem spelling_spec (known : KnownVersions) (api : String) (profile : Option String)
    {text text' : String} {v w : Version} (hv : Version.parse? text = .ok v)
    (hw : Version.parse? text' = .ok w) (h : v.SameNumber w) :
    ((∃ s, Selection.resolve known api text profile = .ok s)
      ↔ ∃ t, Selection.resolve known api text' profile = .ok t)
    ∧ ((∃ s, Selection.resolve known api text profile = .ok s)
      ↔ ∃ accepted, known.find? api = some accepted ∧ ∃ u ∈ accepted, u.SameNumber v)
    ∧ ∀ s t, Selection.resolve known api text profile = .ok s →
      Selection.resolve known api text' profile = .ok t → ∀ c : Catalog,
        s.consolidate c = t.consolidate c
        ∧ ∀ names stem, Context.SameButLabel ⟨c, s, names, stem⟩ ⟨c, t, names, stem⟩ := by
  -- whether a text is accepted depends on the number that it is read as
  have haccepted : ∀ text v, Version.parse? text = .ok v →
      ((∃ s, Selection.resolve known api text profile = .ok s)
        ↔ ∃ accepted, known.find? api = some accepted ∧ ∃ u ∈ accepted, u.SameNumber v) := by
    intro text v hparse
    simp only [Selection.resolve_eq_ok, hparse, Except.ok.injEq]
    constructor
    · rintro ⟨_, accepted, _, hapi, rfl, hlisted, -⟩
      exact ⟨accepted, hapi, hlisted⟩
    · rintro ⟨accepted, hapi, hlisted⟩
      exact ⟨_, accepted, v, hapi, rfl, hlisted, rfl⟩
  have hnumber : ∀ u : Version, u.SameNumber v ↔ u.SameNumber w :=
    fun u => forall_congr' fun i => by rw [h i]
  refine ⟨?_, haccepted text v hv, ?_⟩
  · rw [haccepted text v hv, haccepted text' w hw]
    simp only [hnumber]
  · intro s t hs ht c
    obtain ⟨_, _, -, hv', -, rfl⟩ := Selection.resolve_eq_ok.mp hs
    obtain ⟨_, _, -, hw', -, rfl⟩ := Selection.resolve_eq_ok.mp ht
    -- what was accepted is what was read
    obtain rfl := Except.ok.inj (hv.symm.trans hv')
    obtain rfl := Except.ok.inj (hw.symm.trans hw')
    have htarget : Selection.SameTarget ⟨api, v, profile.filter (· ≠ "")⟩
        ⟨api, w, profile.filter (· ≠ "")⟩ := ⟨rfl, h, rfl⟩
    exact ⟨Selection.consolidate_eq_of_sameTarget htarget c, fun _ _ => Context.sameButLabel _ _⟩

/-- Two spellings of the second version of `deprecating` are accepted, have the same names and the
same loader, and are told apart by the labels. -/
theorem spelling_deprecating :
    ∃ s t names, Selection.resolve ⟨[("gl", [.ofPair 3 2])]⟩ "gl" " +3.02.0" (some "core") = .ok s
      ∧ Selection.resolve ⟨[("gl", [.ofPair 3 2])]⟩ "gl" "3.2" (some "core") = .ok t
      ∧ s.label = "gl 3.2.0 core" ∧ t.label = "gl 3.2 core"
      ∧ s.consolidate (Catalog.ofRegistry deprecating) = .ok names
      ∧ t.consolidate (Catalog.ofRegistry deprecating) = .ok names
      ∧ Context.SameButLabel ⟨Catalog.ofRegistry deprecating, s, names, Stem.default⟩
        ⟨Catalog.ofRegistry deprecating, t, names, Stem.default⟩ := by
  have hv : Version.parse? " +3.02.0" = .ok ⟨3, [2, 0]⟩ := by rfl
  have hw : Version.parse? "3.2" = .ok ⟨3, [2]⟩ := by rfl
  have hsame : Version.SameNumber ⟨3, [2, 0]⟩ ⟨3, [2]⟩ :=
    Version.sameNumber_withZeros ⟨3, [2]⟩ 1
  obtain ⟨hboth, haccepted, hspec⟩ :=
    spelling_spec ⟨[("gl", [.ofPair 3 2])]⟩ "gl" (some "core") hv hw hsame
  obtain ⟨s, hs⟩ := haccepted.mpr ⟨_, rfl, .ofPair 3 2, List.mem_cons_self,
    fun i => (hsame i).symm⟩
  obtain ⟨t, ht⟩ := hboth.mp ⟨s, hs⟩
  obtain ⟨_, _, -, hv', -, rfl⟩ := Selection.resolve_eq_ok.mp hs
  obtain ⟨_, _, -, hw', -, rfl⟩ := Selection.resolve_eq_ok.mp ht
  obtain rfl := Except.ok.inj (hv.symm.trans hv')
  obtain rfl := Except.ok.inj (hw.symm.trans hw')
  obtain ⟨hnames, hbindings⟩ := hspec _ _ hs ht (Catalog.ofRegistry deprecating)
  -- both have the names of the second version
  obtain ⟨names, hconsolidate⟩ : ∃ names, Selection.consolidate ⟨"gl", ⟨3, [2]⟩, some "core"⟩
      (Catalog.ofRegistry deprecating) = .ok names := by
    have hfeatures : deprecating.featuresUpTo "gl" ⟨3, [2]⟩ = deprecating.features :=
      featuresUpTo_deprecating
    rw [Selection.consolidate, consolidate_eq (by decide), hfeatures]
    exact ⟨_, rfl⟩
  exact ⟨_, _, names, hs, ht, by cbv, by cbv, hnames.trans hconsolidate, hconsolidate,
    hbindings names Stem.default⟩

end GLBindings
