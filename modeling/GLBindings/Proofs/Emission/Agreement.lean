import GLBindings.Emission.Bindings
import GLBindings.Proofs.Catalog
import GLBindings.Proofs.Emission.Layout
import GLBindings.Proofs.Traversal

namespace GLBindings

open Catalog

/-!
# Agreement — the files for C++ fit together

Each of the three files computes what it lists for itself, through the look-ups of the catalog.
This file proves that the lists are the same.

* `Agree` — what the headers and the loader have in common.
* `preview_eq_ok` — previews are those of files that can all be made; `preview_cpp_eq_ok` — the
  three for C++ come from two headers and a loader.
* `cHeader_eq_ok`, `cLoader_eq_ok`, `cppHeader_eq_ok` — which come from the look-ups of a context.
* `groups_eq_ok` — the groups that get an enumeration.
* `group_ofParameter` — the group that a parameter of a wrapper is typed by; `typed_ofCommand`,
  `names_ofGroup`, `enumerators_ofGroup` — wrappers and enumerations fit together.
* `agree_of_eq_ok` — so do the headers and the loader of a context.
* `cppFiles_agree` — all of it together, down to the rows of the files.
-/

/-! ### What the files list -/

/-- The parameter `p` of a wrapper stands for the parameter `q` of a command.  Its group is the
one of `q`, provided that this is not empty and some constant is tagged with it. -/
structure TypedByGroup (r : Registry) (q : Parameter) (p : WrapperParam) : Prop where
  group : ∀ g, p.group = some g
    ↔ q.group = some g ∧ g ≠ "" ∧ ∃ k ∈ r.constants, g ∈ k.groups
  declaration : p.declaration
    = Code.declaration q.isConst (p.group.getD q.base) q.indirection
        (CppNaming.convention.paramName q.name)

/-- The headers and the loader list the same. -/
structure Agree (r : Registry) (names : NameSelection) (header : CHeader) (loader : CLoader)
    (wrapping : CppHeader) : Prop where
  /-- What the header declares is what the loader defines and loads. -/
  loaded : loader.pointers = header.pointers
  /-- The pointers are for the selected commands, each once. -/
  selected : header.pointers.map (·.name) = names.commands.names ∧ names.commands.names.Nodup
  /-- Each pointer is made from the first declaration of its command. -/
  declared : ∀ q ∈ header.pointers, ∃ c, r.commandNamed q.name = some c ∧ q = Pointer.ofCommand c
  /-- The wrappers call the same commands. -/
  called : wrapping.wrappers.map (·.command) = header.pointers.map (·.name)
  /-- The macros are for the selected constants, each once. -/
  defined : header.defines.map (·.name) = names.enums.names ∧ names.enums.names.Nodup
  /-- Each macro has the value of the first declaration of its constant. -/
  valued : ∀ d ∈ header.defines, ∃ k, r.constantNamed d.name = some k ∧ d.value = k.value
  /-- The parameters of a wrapper are those of its command, typed by their groups. -/
  typed : ∀ w ∈ wrapping.wrappers, ∃ c, r.commandNamed w.command = some c
    ∧ List.Forall₂ (TypedByGroup r) c.params w.params
  /-- The enumerations are for the groups that type parameters, each at its first use. -/
  used : wrapping.classes.map (·.name)
    = (wrapping.wrappers.flatMap fun w => w.params.filterMap (·.group)).eraseDups
  /-- An enumeration has one enumerator for each name of a constant tagged with its group. -/
  enumerated : ∀ e ∈ wrapping.classes, e.enumerators ≠ []
    ∧ ∃ members : List Constant, e.enumerators = members.map EnumClass.enumeratorOf
      ∧ members.map (·.name) = ((tagged r e.name).map (·.name)).eraseDups
      ∧ ∀ k ∈ members, (tagged r e.name).find? (·.name == k.name) = some k

/-! ### The look-ups of a context -/

section Lookups

variable {c : Context}

/-- Previews can be made exactly when all files can, and are made from them. -/
theorem preview_eq_ok {language : Language} {previews : List Preview} :
    c.preview language = .ok previews
      ↔ ∃ fs : List GeneratedFile, c.files language = fs.map .ok ∧ previews = fs.map .of :=
  mapM_map_eq_ok

/-- The three files for C++ come from two headers and a loader. -/
theorem preview_cpp_eq_ok {files : List Preview} :
    c.preview .cpp = .ok files ↔ ∃ header loader wrapping, c.cHeader = .ok header
      ∧ c.cLoader = .ok loader ∧ c.cppHeader = .ok wrapping
      ∧ files = [.of header.file, .of loader.file, .of wrapping.file] := by
  have hall : c.preview .cpp = .ok files ↔ List.Forall₂ (fun x p => x.map Preview.of = .ok p)
      [c.cHeader.map CHeader.file, c.cLoader.map CLoader.file, c.cppHeader.map CppHeader.file]
      files := mapM_eq_ok
  rw [hall]
  simp only [List.forall₂_cons_left_iff, List.forall₂_nil_left_iff, map_eq_ok]
  -- three files are made, each from what it is the file of
  constructor
  · rintro ⟨_, _, ⟨_, ⟨header, hheader, rfl⟩, rfl⟩, ⟨_, _, ⟨_, ⟨loader, hloader, rfl⟩, rfl⟩,
      ⟨_, _, ⟨_, ⟨wrapping, hwrapping, rfl⟩, rfl⟩, rfl, rfl⟩, rfl⟩, rfl⟩
    exact ⟨header, loader, wrapping, hheader, hloader, hwrapping, rfl⟩
  · rintro ⟨header, loader, wrapping, hheader, hloader, hwrapping, rfl⟩
    exact ⟨_, _, ⟨_, ⟨header, hheader, rfl⟩, rfl⟩, ⟨_, _, ⟨_, ⟨loader, hloader, rfl⟩, rfl⟩,
      ⟨_, _, ⟨_, ⟨wrapping, hwrapping, rfl⟩, rfl⟩, rfl, rfl⟩, rfl⟩, rfl⟩

/-- The pointers and macros of the header for C are made from what is looked up for the names. -/
theorem cHeader_eq_ok {header : CHeader} (h : c.cHeader = .ok header) :
    ∃ cs ks, c.commands = .ok cs ∧ c.constants = .ok ks
      ∧ header.pointers = cs.map Pointer.ofCommand ∧ header.defines = ks.map Define.ofConstant := by
  rw [Context.cHeader] at h
  simp only [bind_eq_ok] at h
  obtain ⟨_, _, ks, hks, pointers, hpointers, h⟩ := h
  -- types and constants are there; what is left are the pointers
  rw [Context.pointers, bind_eq_ok] at hpointers
  obtain ⟨cs, hcs, hpointers⟩ := hpointers
  obtain rfl := Except.ok.inj hpointers
  obtain rfl := Except.ok.inj h
  exact ⟨cs, ks, hcs, hks, rfl, rfl⟩

/-- The loader looks the commands up once more and makes its own pointers from them. -/
theorem cLoader_eq_ok {loader : CLoader} (h : c.cLoader = .ok loader) :
    ∃ cs, c.commands = .ok cs ∧ loader.pointers = cs.map Pointer.ofCommand := by
  rw [Context.cLoader, bind_eq_ok] at h
  obtain ⟨pointers, hpointers, h⟩ := h
  rw [Context.pointers, bind_eq_ok] at hpointers
  obtain ⟨cs, hcs, hpointers⟩ := hpointers
  obtain rfl := Except.ok.inj hpointers
  obtain rfl := Except.ok.inj h
  exact ⟨cs, hcs, rfl⟩

/-- The header for C++ looks groups and commands up, and tells the wrappers which groups it has. -/
theorem cppHeader_eq_ok {wrapping : CppHeader} (h : c.cppHeader = .ok wrapping) :
    ∃ gs cs, c.groups = .ok gs ∧ c.commands = .ok cs
      ∧ wrapping.classes = gs.map EnumClass.ofGroup
      ∧ wrapping.wrappers = cs.map (Wrapper.ofCommand (gs.map (·.name)).contains) := by
  rw [Context.cppHeader] at h
  simp only [bind_eq_ok] at h
  obtain ⟨gs, hgs, cs, hcs, h⟩ := h
  obtain rfl := Except.ok.inj h
  exact ⟨gs, cs, hgs, hcs, rfl, rfl⟩

end Lookups

/-! ### Declarations behind the look-ups -/

section Declarations

variable {r : Registry}

/-- A group that some constant is tagged with has members. -/
theorem firstOfEach_tagged_ne_nil {group : String} (h : (ofRegistry r).hasGroup group = true) :
    firstOfEach (·.name) (tagged r group) ≠ [] := by
  obtain ⟨k, hk, hgroup⟩ := (hasGroup_iff r).mp h
  -- the name of the constant is listed, whichever declaration of it is
  have hmem : k.name ∈ (firstOfEach (·.name) (tagged r group)).map (·.name) := by
    rw [map_firstOfEach, List.mem_eraseDups]
    exact List.mem_map_of_mem (List.mem_filter.mpr ⟨hk, inGroup_iff.mpr hgroup⟩)
  intro hnil
  rw [hnil] at hmem
  cases hmem

end Declarations

/-! ### Groups of parameters -/

section Groups

variable {r : Registry} {c : Context} {cs : List Command} {gs : List ReferencedGroup}

/-- The groups that get an enumeration are those of the commands that have constants. -/
theorem groups_eq_ok (hc : c.catalog = ofRegistry r) (hcs : c.commands = .ok cs)
    (h : c.groups = .ok gs) :
    gs.map (·.name) = (cs.flatMap (ofRegistry r).groupsOf).eraseDups
      ∧ ∀ g ∈ gs, (ofRegistry r).hasGroup g.name = true
        ∧ g.constants = firstOfEach (·.name) (tagged r g.name) := by
  rw [Context.commands, hc] at hcs
  rw [Context.groups, hc] at h
  simp only [referencedGroups, hcs, bind_eq_ok] at h
  obtain ⟨names, ⟨_, hcs', hnames⟩, hgs⟩ := h
  obtain rfl := Except.ok.inj hcs'
  obtain rfl := Except.ok.inj hnames
  -- a group that is looked up keeps the name that it was looked up under
  have hgroup : ∀ name g, c.groupNamed name = .ok g →
      g.name = id name ∧ (ofRegistry r).group g.name = .ok g.constants := by
    intro name g hg
    rw [Context.groupNamed, hc, bind_eq_ok] at hg
    obtain ⟨members, hmembers, hg⟩ := hg
    obtain rfl := Except.ok.inj hg
    exact ⟨rfl, hmembers⟩
  constructor
  · rw [map_eq_of_mapM_eq_ok (fun name g hg => (hgroup name g hg).1) hgs, List.map_id,
      NameSet.names_ofList]
  · intro g hg
    obtain ⟨name, -, hname⟩ := (mem_of_mapM_eq_ok hgs).mp hg
    exact (group_eq_ok r).mp (hgroup name g hname).2

/-- The group that a parameter of a wrapper is typed by. -/
theorem group_ofParameter (hgs : gs.map (·.name) = (cs.flatMap (ofRegistry r).groupsOf).eraseDups)
    {c : Command} (hc : c ∈ cs) {q : Parameter} (hq : q ∈ c.params) :
    (WrapperParam.ofParameter (gs.map (·.name)).contains q).group
      = q.groupName.filter (ofRegistry r).hasGroup := by
  show q.groupName.filter _ = _
  cases hg : q.groupName with
  | none => rfl
  | some g =>
    -- for a group of this parameter, being listed is being declared
    have hiff : (gs.map (·.name)).contains g = (ofRegistry r).hasGroup g := by
      rw [Bool.eq_iff_iff, List.contains_iff_mem, hgs, List.mem_eraseDups, List.mem_flatMap]
      constructor
      · rintro ⟨_, -, hmem⟩
        exact (List.mem_filter.mp hmem).2
      · -- the parameter itself is one that refers to the group
        intro hhas
        refine ⟨c, hc, List.mem_filter.mpr ⟨?_, hhas⟩⟩
        exact List.mem_filterMap.mpr ⟨q, hq, hg⟩
    rw [Option.filter_some, Option.filter_some, hiff]

/-- A parameter of a wrapper is typed by its group exactly when there are constants for it. -/
theorem typedByGroup_ofParameter
    (hgs : gs.map (·.name) = (cs.flatMap (ofRegistry r).groupsOf).eraseDups)
    {c : Command} (hc : c ∈ cs) {q : Parameter} (hq : q ∈ c.params) :
    TypedByGroup r q (WrapperParam.ofParameter (gs.map (·.name)).contains q) := by
  refine ⟨fun g => ?_, rfl⟩
  rw [group_ofParameter hgs hc hq, Option.filter_eq_some_iff, hasGroup_iff, Parameter.groupName,
    Option.filter_eq_some_iff, decide_eq_true_eq, and_assoc]

/-- The groups that type the parameters of a wrapper are those of its command. -/
theorem groups_ofCommand (hgs : gs.map (·.name) = (cs.flatMap (ofRegistry r).groupsOf).eraseDups)
    {c : Command} (hc : c ∈ cs) :
    (Wrapper.ofCommand (gs.map (·.name)).contains c).params.filterMap (·.group)
      = (ofRegistry r).groupsOf c := by
  show (c.params.map (WrapperParam.ofParameter _)).filterMap (·.group) = _
  rw [List.filterMap_map, groupsOf, List.filter_filterMap]
  -- parameter by parameter, of which some have no group
  refine List.filterMap_congr fun q hq => ?_
  exact group_ofParameter hgs hc hq

/-- Parameter by parameter, a wrapper is typed by the groups of its command. -/
theorem typed_ofCommand (hgs : gs.map (·.name) = (cs.flatMap (ofRegistry r).groupsOf).eraseDups)
    {c : Command} (hc : c ∈ cs) :
    List.Forall₂ (TypedByGroup r) c.params (Wrapper.ofCommand (gs.map (·.name)).contains c).params := by
  show List.Forall₂ _ c.params (c.params.map _)
  rw [List.forall₂_map_right_iff, List.forall₂_same]
  exact fun q hq => typedByGroup_ofParameter hgs hc hq

/-- The enumerations are for the groups that the wrappers use, in the order of their first uses. -/
theorem names_ofGroup (hgs : gs.map (·.name) = (cs.flatMap (ofRegistry r).groupsOf).eraseDups) :
    (gs.map EnumClass.ofGroup).map (·.name)
      = ((cs.map (Wrapper.ofCommand (gs.map (·.name)).contains)).flatMap
          fun w => w.params.filterMap (·.group)).eraseDups := by
  -- wrapper by wrapper these are the groups of the commands
  have hused : ((cs.map (Wrapper.ofCommand (gs.map (·.name)).contains)).flatMap
      fun w => w.params.filterMap (·.group)) = cs.flatMap (ofRegistry r).groupsOf := by
    rw [List.flatMap_map]
    exact List.flatMap_congr fun c hc => groups_ofCommand hgs hc
  rw [hused, ← hgs, List.map_map]
  rfl

/-- An enumeration has the first constant for each name that is tagged with its group, and there is
such a name. -/
theorem enumerators_ofGroup {g : ReferencedGroup} (hhas : (ofRegistry r).hasGroup g.name = true)
    (hconstants : g.constants = firstOfEach (·.name) (tagged r g.name)) :
    (EnumClass.ofGroup g).enumerators ≠ []
    ∧ ∃ members : List Constant,
      (EnumClass.ofGroup g).enumerators = members.map EnumClass.enumeratorOf
      ∧ members.map (·.name) = ((tagged r g.name).map (·.name)).eraseDups
      ∧ ∀ k ∈ members, (tagged r g.name).find? (·.name == k.name) = some k := by
  refine ⟨?_, g.constants, rfl, ?_, ?_⟩
  · intro hnil
    rw [EnumClass.ofGroup, List.map_eq_nil_iff, hconstants] at hnil
    exact firstOfEach_tagged_ne_nil hhas hnil
  · rw [hconstants]
    exact map_firstOfEach _ _
  · intro k hk
    rw [hconstants] at hk
    exact find?_of_mem_firstOfEach hk

end Groups

/-! ### All of it together -/

/-- The commands are looked up for each file, always with the same result, and so the headers and the
loader list the same. -/
theorem agree_of_eq_ok {r : Registry} {c : Context} {header : CHeader} {loader : CLoader}
    {wrapping : CppHeader} (hc : c.catalog = ofRegistry r) (hheader : c.cHeader = .ok header)
    (hloader : c.cLoader = .ok loader) (hwrapping : c.cppHeader = .ok wrapping) :
    Agree r c.names header loader wrapping := by
  obtain ⟨cs, ks, hcs, hks, hpointers, hdefines⟩ := cHeader_eq_ok hheader
  obtain ⟨cs', hcs', hloaded⟩ := cLoader_eq_ok hloader
  obtain rfl : cs = cs' := Except.ok.inj (hcs.symm.trans hcs')
  obtain ⟨gs, cs', hgs, hcs', hclasses, hwrappers⟩ := cppHeader_eq_ok hwrapping
  obtain rfl : cs = cs' := Except.ok.inj (hcs.symm.trans hcs')
  obtain ⟨hgnames, hmembers⟩ := groups_eq_ok hc hcs hgs
  rw [Context.commands, hc] at hcs
  rw [Context.constants, hc] at hks
  obtain ⟨hcommands, hfirst⟩ := firsts_of_mapM_eq_ok (fun _ _ => command_eq_ok.mp) hcs
  obtain ⟨hconstants, hfirstConstant⟩ := firsts_of_mapM_eq_ok (fun _ _ => constant_eq_ok.mp) hks
  constructor
  case loaded => rw [hloaded, hpointers]
  case selected =>
    rw [hpointers, List.map_map]
    exact ⟨hcommands, c.names.commands.nodup⟩
  case declared =>
    intro q hq
    rw [hpointers] at hq
    obtain ⟨d, hd, rfl⟩ := List.mem_map.mp hq
    exact ⟨d, hfirst d hd, rfl⟩
  case called =>
    rw [hwrappers, hpointers, List.map_map, List.map_map]
    rfl
  case defined =>
    rw [hdefines, List.map_map]
    exact ⟨hconstants, c.names.enums.nodup⟩
  case valued =>
    intro d hd
    rw [hdefines] at hd
    obtain ⟨k, hk, rfl⟩ := List.mem_map.mp hd
    exact ⟨k, hfirstConstant k hk, rfl⟩
  case typed =>
    intro w hw
    rw [hwrappers] at hw
    obtain ⟨d, hd, rfl⟩ := List.mem_map.mp hw
    exact ⟨d, hfirst d hd, typed_ofCommand hgnames hd⟩
  case used =>
    rw [hclasses, hwrappers]
    exact names_ofGroup hgnames
  case enumerated =>
    intro e he
    rw [hclasses] at he
    obtain ⟨g, hg, rfl⟩ := List.mem_map.mp he
    obtain ⟨hhas, hconstants⟩ := hmembers g hg
    exact enumerators_ofGroup hhas hconstants

/-- **The files for C++ agree.**  Whenever they can be made for the names of a selection, they are
the files of a header, a loader and a wrapping header, which are the ones that the context makes; each
file holds the rows of what it declares, and what the three declare agrees. -/
theorem cppFiles_agree (r : Registry) (selection : Selection) (names : NameSelection)
    (stem : Stem) (files : List Preview)
    (h : (⟨ofRegistry r, selection, names, stem⟩ : Context).preview .cpp = .ok files) :
    let c : Context := ⟨ofRegistry r, selection, names, stem⟩
    ∃ header loader wrapping,
      c.cHeader = .ok header ∧ c.cLoader = .ok loader ∧ c.cppHeader = .ok wrapping
        ∧ files = [.of header.file, .of loader.file, .of wrapping.file]
        ∧ files.map (·.content)
          = [fileText header.rows, fileText loader.rows, fileText wrapping.rows]
        ∧ Agree r names header loader wrapping := by
  obtain ⟨header, loader, wrapping, hheader, hloader, hwrapping, hfiles⟩ :=
    preview_cpp_eq_ok.mp h
  -- what stands in the files, row by row
  have hcontents : files.map (·.content)
      = [fileText header.rows, fileText loader.rows, fileText wrapping.rows] := by
    rw [hfiles, ← header.content_file, ← loader.content_file, ← wrapping.content_file]
    rfl
  exact ⟨header, loader, wrapping, hheader, hloader, hwrapping, hfiles, hcontents,
    agree_of_eq_ok rfl hheader hloader hwrapping⟩

/-- Two commands with the same group, which one constant is tagged with twice over, and an empty
group. -/
def sharing : Registry where
  types := []
  collections := [⟨"GL", none, none, none, [
    ⟨"GL_FRONT", "0x0404", ["TriangleFace"], none, none⟩,
    ⟨"GL_BACK", "0x0405", ["TriangleFace", ""], none, none⟩,
    ⟨"GL_FRONT", "0x0400", ["TriangleFace"], none, none⟩]⟩]
  commands := [
    ⟨"glCullFace", "void", none, none,
      [⟨"mode", "GLenum", false, 0, none, some "TriangleFace", none⟩], "GL", none⟩,
    ⟨"glPolygonMode", "void", none, none,
      [⟨"face", "GLenum", false, 0, none, some "TriangleFace", none⟩,
        ⟨"mode", "GLenum", false, 0, none, some "", none⟩], "GL", none⟩]
  features := []

/-- Both commands and one constant. -/
def sharingNames : NameSelection :=
  ⟨.ofList ["glPolygonMode", "glCullFace"], .ofList ["GL_FRONT"], .empty⟩

/-- What bindings for them are made from. -/
def sharingContext : Context :=
  ⟨ofRegistry sharing, ⟨"gl", .ofPair 1 0, none⟩, sharingNames, Stem.default⟩

/-- The files can be made for both commands, and agree: the pointers come in the order of the
selection, and the group that both commands use has one enumeration. -/
theorem cppFiles_sharing :
    ∃ files header loader wrapping, sharingContext.preview .cpp = .ok files
      ∧ sharingContext.cHeader = .ok header ∧ sharingContext.cLoader = .ok loader
      ∧ sharingContext.cppHeader = .ok wrapping
      ∧ files = [.of header.file, .of loader.file, .of wrapping.file]
      ∧ files.map (·.content) = [fileText header.rows, fileText loader.rows, fileText wrapping.rows]
      ∧ Agree sharing sharingNames header loader wrapping
      ∧ loader.pointers.map Pointer.loadRow = [
        .code 1 "glPolygonMode = (PFNGLPOLYGONMODEPROC)getProcAddress(\"glPolygonMode\");",
        .code 1 "glCullFace = (PFNGLCULLFACEPROC)getProcAddress(\"glCullFace\");"]
      ∧ wrapping.classes.map (·.name) = ["TriangleFace"] := by
  have hpreview : ∃ files, sharingContext.preview .cpp = .ok files :=
    ⟨_, preview_cpp_eq_ok.mpr ⟨_, _, _, rfl, rfl, rfl, rfl⟩⟩
  obtain ⟨files, hfiles⟩ := hpreview
  obtain ⟨header, loader, wrapping, hheader, hloader, hwrapping, hsplit, hcontents, hagree⟩ :=
    cppFiles_agree sharing ⟨"gl", .ofPair 1 0, none⟩ sharingNames Stem.default files hfiles
  refine ⟨files, header, loader, wrapping, hfiles, hheader, hloader, hwrapping, hsplit, hcontents,
    hagree, ?_, ?_⟩
  · obtain rfl := Except.ok.inj hloader
    decide
  · obtain rfl := Except.ok.inj hwrapping
    decide

end GLBindings
