import GLBindings.Proofs.Consolidation.ClosedForm
import GLBindings.Proofs.Emission.Agreement
import GLBindings.Proofs.ReferencedTypes
import GLBindings.Report

namespace GLBindings

open Catalog

/-!
# Rendering — bindings can be made when everything that is selected is declared

The check and the files look names up in different orders and through different requests, some of
which pass over a name that leads nowhere.  This file proves that all of them come down to the same
condition, and that the header for C is where a missing declaration shows.

* `Registry.DeclaresAll` — every name of a selection is declared; `Registry.Lacks` — the errors
  that report one that is not.
* `exists_groups_eq_ok` — the look-up of groups is strict, but only asked for groups that exist.
* `files_spec` — either every file of a language can be made, or already the first cannot.
* `rendering_spec` — check and previews succeed together, and fail alike.
-/

/-! ### What a selection needs -/

/-- Every name of a selection is declared. -/
structure Registry.DeclaresAll (r : Registry) (s : NameSelection) : Prop where
  commands : ∀ name ∈ s.commands, ∃ c, r.commandNamed name = some c
  enums : ∀ name ∈ s.enums, ∃ k, r.constantNamed name = some k
  types : ∀ name ∈ s.types, ∃ t, r.typeNamed name = some t

/-- The errors that report a name of a selection which is not declared. -/
inductive Registry.Lacks (r : Registry) (s : NameSelection) : RegistryError → Prop where
  | command (name : String) (h : name ∈ s.commands) (hnone : r.commandNamed name = none) :
    Lacks r s (.notFound .command name)
  | enum (name : String) (h : name ∈ s.enums) (hnone : r.constantNamed name = none) :
    Lacks r s (.notFound .enum name)
  | type (name : String) (h : name ∈ s.types) (hnone : r.typeNamed name = none) :
    Lacks r s (.notFound .type name)

/-- Every block of the registry only requires what is declared. -/
def Registry.RequiresDeclared (r : Registry) : Prop :=
  ∀ f ∈ r.features, ∀ b ∈ f.requires, r.DeclaresAll ⟨b.commands, b.enums, b.types⟩

section Lookups

variable {r : Registry} {c : Context} {e : RegistryError}

/-! ### The look-ups of a context -/

/-- The commands of a context can be looked up when each of its names is declared as one. -/
theorem exists_commands_eq_ok (hc : c.catalog = ofRegistry r) : (∃ cs, c.commands = .ok cs)
    ↔ ∀ name ∈ c.names.commands, ∃ d, r.commandNamed name = some d := by
  rw [Context.commands, hc, exists_commandsIn_eq_ok]

/-- So can its constants. -/
theorem exists_constants_eq_ok (hc : c.catalog = ofRegistry r) : (∃ ks, c.constants = .ok ks)
    ↔ ∀ name ∈ c.names.enums, ∃ k, r.constantNamed name = some k := by
  simp only [Context.constants, hc, constantsIn, exists_mapM_eq_ok, constant_eq_ok, NameSet.mem_def]

/-- The types can when the named ones and the commands are declared: what these mention is looked up
without fail. -/
theorem exists_types_eq_ok (hc : c.catalog = ofRegistry r) :
    (∃ ts, c.types = .ok ts) ↔ r.Declares c.names := by
  rw [Context.types, hc, exists_referencedTypes_eq_ok]

/-- Commands, constants and types can be looked up exactly when every name is declared. -/
theorem declaresAll_iff (hc : c.catalog = ofRegistry r) : r.DeclaresAll c.names
    ↔ (∃ cs, c.commands = .ok cs) ∧ (∃ ks, c.constants = .ok ks) ∧ ∃ ts, c.types = .ok ts := by
  rw [exists_commands_eq_ok hc, exists_constants_eq_ok hc, exists_types_eq_ok hc]
  constructor
  · exact fun hall => ⟨hall.commands, hall.enums, hall.types, hall.commands⟩
  · exact fun ⟨hcommands, henums, htypes, _⟩ => ⟨hcommands, henums, htypes⟩

/-- A look-up of commands that fails reports a name which is not declared. -/
theorem commands_eq_error (hc : c.catalog = ofRegistry r) (h : c.commands = .error e) :
    r.Lacks c.names e := by
  rw [Context.commands, hc] at h
  obtain ⟨name, hname, hnone, rfl⟩ := commandsIn_eq_error h
  exact .command name hname hnone

/-- So does one of constants. -/
theorem constants_eq_error (hc : c.catalog = ofRegistry r) (h : c.constants = .error e) :
    r.Lacks c.names e := by
  rw [Context.constants, hc] at h
  obtain ⟨name, hname, h⟩ := exists_of_mapM_eq_error h
  rw [constant, find?_constants, found_eq_error] at h
  obtain ⟨hnone, rfl⟩ := h
  exact .enum name hname hnone

/-- And one of types, which may also stop at a command. -/
theorem types_eq_error (hc : c.catalog = ofRegistry r) (h : c.types = .error e) :
    r.Lacks c.names e := by
  rw [Context.types, hc, referencedTypes_eq, map_eq_error] at h
  rcases seedTypes_eq_error h with ⟨name, hname, hnone, rfl⟩ | ⟨name, hname, hnone, rfl⟩
  · exact .type name hname hnone
  · exact .command name hname hnone

/-! ### Groups -/

/-- A group that some constant is tagged with can be looked up. -/
theorem exists_groupNamed_eq_ok (hc : c.catalog = ofRegistry r) {name : String}
    (h : (ofRegistry r).hasGroup name = true) : ∃ g, c.groupNamed name = .ok g := by
  rw [Context.groupNamed, hc, exists_bind_eq_ok]
  exact ⟨_, (group_eq_ok r).mpr ⟨h, rfl⟩, _, rfl⟩

/-- **Groups never go missing.**  The groups of a selection are looked up strictly, but those that
nothing is tagged with were left out before, so only an undeclared command can be reported. -/
theorem exists_groups_eq_ok (hc : c.catalog = ofRegistry r) :
    (∃ gs, c.groups = .ok gs) ↔ ∃ cs, c.commands = .ok cs := by
  rw [Context.groups, Context.commands, exists_bind_eq_ok, referencedGroups]
  simp only [bind_eq_ok]
  constructor
  · rintro ⟨_, ⟨cs, hcs, -⟩, -⟩
    exact ⟨cs, hcs⟩
  · rintro ⟨cs, hcs⟩
    refine ⟨_, ⟨cs, hcs, rfl⟩, exists_mapM_eq_ok.mpr fun name hname => ?_⟩
    -- every name in the list stands for a group of some command
    rw [NameSet.names_ofList, List.mem_eraseDups, List.mem_flatMap, hc] at hname
    obtain ⟨d, -, hmem⟩ := hname
    -- the names that are asked for are those that the filter let through
    exact exists_groupNamed_eq_ok hc (List.mem_filter.mp hmem).2

/-! ### The files -/

/-- Pointers need nothing but the commands. -/
theorem exists_pointers_eq_ok : (∃ ps, c.pointers = .ok ps) ↔ ∃ cs, c.commands = .ok cs := by
  rw [Context.pointers, exists_bind_eq_ok]
  constructor
  · rintro ⟨cs, hcs, -⟩
    exact ⟨cs, hcs⟩
  · rintro ⟨cs, hcs⟩
    exact ⟨cs, hcs, _, rfl⟩

/-- Neither does the loader. -/
theorem exists_cLoader_eq_ok : (∃ l, c.cLoader = .ok l) ↔ ∃ cs, c.commands = .ok cs := by
  rw [Context.cLoader, exists_bind_eq_ok, ← exists_pointers_eq_ok]
  constructor
  · rintro ⟨ps, hps, -⟩
    exact ⟨ps, hps⟩
  · rintro ⟨ps, hps⟩
    exact ⟨ps, hps, _, rfl⟩

/-- Nor does the header for C++, since groups never go missing. -/
theorem exists_cppHeader_eq_ok (hc : c.catalog = ofRegistry r) :
    (∃ w, c.cppHeader = .ok w) ↔ ∃ cs, c.commands = .ok cs := by
  simp only [Context.cppHeader, exists_bind_eq_ok]
  constructor
  · rintro ⟨_, -, cs, hcs, -⟩
    exact ⟨cs, hcs⟩
  · rintro ⟨cs, hcs⟩
    obtain ⟨gs, hgs⟩ := (exists_groups_eq_ok hc).mpr ⟨cs, hcs⟩
    exact ⟨gs, hgs, cs, hcs, _, rfl⟩

/-- The header for C looks up everything that a selection names. -/
theorem exists_cHeader_eq_ok (hc : c.catalog = ofRegistry r) :
    (∃ h, c.cHeader = .ok h) ↔ r.DeclaresAll c.names := by
  rw [declaresAll_iff hc, ← exists_pointers_eq_ok]
  simp only [Context.cHeader, exists_bind_eq_ok]
  constructor
  · rintro ⟨ts, hts, ks, hks, ps, hps, -⟩
    exact ⟨⟨ps, hps⟩, ⟨ks, hks⟩, ⟨ts, hts⟩⟩
  · rintro ⟨⟨ps, hps⟩, ⟨ks, hks⟩, ⟨ts, hts⟩⟩
    exact ⟨ts, hts, ks, hks, ps, hps, _, rfl⟩

/-- When the header for C cannot be made, a name of the selection is not declared. -/
theorem cHeader_eq_error (hc : c.catalog = ofRegistry r) (h : c.cHeader = .error e) :
    r.Lacks c.names e := by
  rw [Context.cHeader, Context.pointers] at h
  simp only [bind_eq_error] at h
  -- types, constants and commands are looked up in this order, and the first error ends it
  obtain h | ⟨ts, -, h | ⟨ks, -, (h | ⟨cs, -, h⟩) | ⟨ps, -, h⟩⟩⟩ := h
  · exact types_eq_error hc h
  · exact constants_eq_error hc h
  · exact commands_eq_error hc h
  · cases h
  · cases h

/-- In either language the header for C comes first. -/
theorem files_eq_cons (c : Context) (language : Language) :
    ∃ later, c.files language = c.cHeader.map CHeader.file :: later := by
  cases language <;> exact ⟨_, rfl⟩

/-- **The first file decides.**  Either everything is declared, and then every file of a language
can be made, or already the header for C cannot, and reports a name that is not declared. -/
theorem files_spec (hc : c.catalog = ofRegistry r) (language : Language) :
    (r.DeclaresAll c.names ∧ ∃ fs : List GeneratedFile, c.files language = fs.map .ok)
      ∨ ∃ e later, r.Lacks c.names e ∧ c.cHeader = .error e
        ∧ c.files language = .error e :: later := by
  cases hheader : c.cHeader with
  | error e =>
    obtain ⟨later, hfiles⟩ := files_eq_cons c language
    rw [hheader] at hfiles
    exact .inr ⟨e, later, cHeader_eq_error hc hheader, rfl, hfiles⟩
  | ok header =>
    -- what the header needs is all that the other files need
    have hall : r.DeclaresAll c.names := (exists_cHeader_eq_ok hc).mp ⟨header, hheader⟩
    have hcommands := (exists_commands_eq_ok hc).mpr hall.commands
    obtain ⟨loader, hloader⟩ := exists_cLoader_eq_ok.mpr hcommands
    obtain ⟨wrapping, hwrapping⟩ := (exists_cppHeader_eq_ok hc).mpr hcommands
    refine .inl ⟨hall, ?_⟩
    cases language with
    | c =>
      refine ⟨[header.file, loader.file], ?_⟩
      rw [Context.files, Context.cFiles, hheader, hloader]
      rfl
    | cpp =>
      refine ⟨[header.file, loader.file, wrapping.file], ?_⟩
      rw [Context.files, Context.cFiles, hheader, hloader, hwrapping]
      rfl

/-! ### Previews and the check -/

/-- A preview fails exactly when the header for C cannot be made, and with its error. -/
theorem preview_eq_error (hc : c.catalog = ofRegistry r) (language : Language) :
    c.preview language = .error e ↔ c.cHeader = .error e := by
  rcases files_spec hc language with ⟨hall, fs, hfiles⟩ | ⟨e', later, -, hheader, hfiles⟩
  · have hpreview : c.preview language = .ok (fs.map .of) :=
      GLBindings.preview_eq_ok.mpr ⟨fs, hfiles, rfl⟩
    obtain ⟨header, hheader⟩ := (exists_cHeader_eq_ok hc).mpr hall
    -- both succeed here, so neither has an error
    rw [hpreview, hheader]
    constructor <;> exact fun h => nomatch h
  · have hpreview : c.preview language = .error e' := by
      rw [Context.preview, hfiles, List.mapM_cons]
      rfl
    rw [hpreview, hheader, Except.error.injEq, Except.error.injEq]

/-- A preview can be made in either language exactly when every name is declared. -/
theorem exists_preview_eq_ok (hc : c.catalog = ofRegistry r) (language : Language) :
    (∃ files, c.preview language = .ok files) ↔ r.DeclaresAll c.names := by
  -- what can fail is the same, so what can succeed is
  rw [← exists_cHeader_eq_ok hc, ← not_iff_not, not_ok_iff, not_ok_iff]
  simp only [preview_eq_error hc]

/-- The check looks up what the files look up. -/
theorem exists_check_eq_ok (hc : c.catalog = ofRegistry r) :
    (∃ report, c.check = .ok report) ↔ r.DeclaresAll c.names := by
  rw [declaresAll_iff hc]
  simp only [Context.check, exists_bind_eq_ok]
  constructor
  · rintro ⟨cs, hcs, ks, hks, ts, hts, -⟩
    exact ⟨⟨cs, hcs⟩, ⟨ks, hks⟩, ⟨ts, hts⟩⟩
  · rintro ⟨⟨cs, hcs⟩, ⟨ks, hks⟩, ⟨ts, hts⟩⟩
    -- the groups are there as soon as the commands are
    obtain ⟨gs, hgs⟩ := (exists_groups_eq_ok hc).mpr ⟨cs, hcs⟩
    exact ⟨cs, hcs, ks, hks, ts, hts, gs, hgs, _, rfl⟩

end Lookups

/-! ### Consolidated names -/

section Consolidated

variable {r : Registry}

/-- A name that features require is listed by a block of one of them. -/
theorem exists_block_of_mem_requiredNames {api : String} {version : Version}
    {filter : Option String} {part : RequireBlock → NameSet} {name : String}
    (h : name ∈ requiredNames filter part (r.featuresUpTo api version)) :
    ∃ f ∈ r.features, ∃ b ∈ f.requires, name ∈ part b := by
  obtain ⟨f, hf, b, hb, hname⟩ := mem_requiredNames.mp h
  exact ⟨f, (List.mem_filter.mp hf).1, b, (List.mem_filter.mp hb).1, hname⟩

/-- Consolidation selects nothing that no block requires. -/
theorem declaresAll_of_consolidate (hr : r.RequiresDeclared) {api : String} {version : Version}
    {filter : Option String} {s : NameSelection}
    (h : (ofRegistry r).consolidate api version filter = .ok s) : r.DeclaresAll s := by
  -- what is selected was required by a feature
  obtain ⟨hcommands, henums, htypes⟩ :=
    NameSelection.required_of_ofFeatures_eq_ok (ofFeatures_of_consolidate h)
  constructor
  case commands =>
    intro name hname
    obtain ⟨f, hf, b, hb, hmem⟩ := exists_block_of_mem_requiredNames (hcommands name hname)
    exact (hr f hf b hb).commands name hmem
  case enums =>
    intro name hname
    obtain ⟨f, hf, b, hb, hmem⟩ := exists_block_of_mem_requiredNames (henums name hname)
    exact (hr f hf b hb).enums name hmem
  case types =>
    intro name hname
    obtain ⟨f, hf, b, hb, hmem⟩ := exists_block_of_mem_requiredNames (htypes name hname)
    exact (hr f hf b hb).types name hmem

end Consolidated

/-! ### All of it together -/

/-- **What can be rendered.**  For any names, the check and the previews for C and for C++ succeed
together, namely when all names are declared.  The previews fail alike, with the report that one of
the names is not found.  So a registry whose blocks only require what is declared renders every
selection that consolidates, whatever its declarations mention. -/
theorem rendering_spec (r : Registry) :
    (∀ (selection : Selection) (names : NameSelection) (stem : Stem),
      let c : Context := ⟨ofRegistry r, selection, names, stem⟩
      List.TFAE [∃ report, c.check = .ok report, ∃ files, c.preview .c = .ok files,
        ∃ files, c.preview .cpp = .ok files, r.DeclaresAll names]
      ∧ ∀ e, (c.preview .c = .error e ↔ c.preview .cpp = .error e)
        ∧ (c.preview .c = .error e → r.Lacks names e))
    ∧ (r.RequiresDeclared → ∀ (selection : Selection) (c : Context),
      Context.ofSelection (ofRegistry r) selection = .ok c → ∀ stem : Stem,
        (∃ report, (c.withStem stem).check = .ok report)
          ∧ ∀ language, ∃ files, (c.withStem stem).preview language = .ok files) := by
  constructor
  · intro selection names stem c
    have hcheck : (∃ report, c.check = .ok report) ↔ r.DeclaresAll names := exists_check_eq_ok rfl
    have hpreview : ∀ language, (∃ files, c.preview language = .ok files) ↔ r.DeclaresAll names :=
      fun language => exists_preview_eq_ok rfl language
    have herror : ∀ language e, c.preview language = .error e ↔ c.cHeader = .error e :=
      fun language _ => preview_eq_error rfl language
    constructor
    · tfae_have 1 ↔ 4 := hcheck
      tfae_have 2 ↔ 4 := hpreview .c
      tfae_have 3 ↔ 4 := hpreview .cpp
      tfae_finish
    · intro e
      rw [herror .c, herror .cpp]
      exact ⟨Iff.rfl, cHeader_eq_error rfl⟩
  · intro hr selection c h stem
    obtain ⟨names, hnames, h⟩ := bind_eq_ok.mp h
    obtain rfl := Except.ok.inj h
    have hall : r.DeclaresAll names := declaresAll_of_consolidate hr hnames
    exact ⟨(exists_check_eq_ok rfl).mpr hall, fun language =>
      (exists_preview_eq_ok rfl language).mpr hall⟩

/-- A command and a type that mention types and a group which are not declared. -/
def dangling : Registry where
  types := [⟨"GLenum", "typedef unsigned int GLenum;", some "khrplatform", none, none⟩]
  collections := [⟨"GL", none, none, none, [⟨"GL_FRONT", "0x0404", [], none, none⟩]⟩]
  commands := [⟨"glCullFace", "GLhandle", some "GLhandle", none,
    [⟨"mode", "GLface", false, 0, none, some "TriangleFace", none⟩], "GL", none⟩]
  features := [⟨"gl", "GL_VERSION_1_0", .ofPair 1 0,
    [⟨.ofList ["GL_FRONT"], .ofList ["glCullFace"], .ofList ["GLenum"], none, none⟩], []⟩]

/-- The first version of it. -/
def danglingTarget : Selection := ⟨"gl", .ofPair 1 0, none⟩

/-- What bindings for some names of it are made from. -/
def danglingContext (names : NameSelection) : Context :=
  ⟨ofRegistry dangling, danglingTarget, names, Stem.default⟩

/-- A constant that is not declared. -/
def danglingNames : NameSelection := ⟨.ofList ["glCullFace"], .ofList ["GL_BACK"], .empty⟩

/-- What declarations mention does not matter, but a name that is not declared does. -/
theorem rendering_dangling :
    (∃ c, Context.ofSelection (ofRegistry dangling) danglingTarget = .ok c
      ∧ (∃ report, (c.withStem Stem.default).check = .ok report)
      ∧ ∀ language, ∃ files, (c.withStem Stem.default).preview language = .ok files)
    ∧ ∃ e, (danglingContext danglingNames).preview .c = .error e
      ∧ (danglingContext danglingNames).preview .cpp = .error e
      ∧ dangling.Lacks danglingNames e := by
  obtain ⟨hnames, hconsolidated⟩ := rendering_spec dangling
  constructor
  · -- what the only block requires is declared, as the check finds
    have hrequired : dangling.RequiresDeclared := by
      intro f hf b hb
      obtain rfl := List.mem_singleton.mp hf
      obtain rfl := List.mem_singleton.mp hb
      have hcheck : ∃ report, (danglingContext
          ⟨.ofList ["glCullFace"], .ofList ["GL_FRONT"], .ofList ["GLenum"]⟩).check = .ok report :=
        ⟨_, rfl⟩
      exact (exists_check_eq_ok rfl).mp hcheck
    have hfeatures : dangling.featuresUpTo "gl" (.ofPair 1 0) = dangling.features := by
      cbv
    have hcontext : ∃ c, Context.ofSelection (ofRegistry dangling) danglingTarget = .ok c := by
      rw [Context.ofSelection, Selection.consolidate, danglingTarget, consolidate_eq (by decide),
        hfeatures]
      exact ⟨_, rfl⟩
    obtain ⟨c, hc⟩ := hcontext
    exact ⟨c, hc, hconsolidated hrequired danglingTarget c hc Stem.default⟩
  · obtain ⟨-, herror⟩ := hnames danglingTarget danglingNames Stem.default
    have hpreview : (danglingContext danglingNames).preview .c
        = .error (.notFound .enum "GL_BACK") := rfl
    obtain ⟨hsame, hlacks⟩ := herror (.notFound .enum "GL_BACK")
    exact ⟨_, hpreview, hsame.mp hpreview, hlacks hpreview⟩

end GLBindings
