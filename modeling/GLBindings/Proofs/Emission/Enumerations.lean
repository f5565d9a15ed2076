import GLBindings.Proofs.Emission.Rendering

namespace GLBindings

open Catalog

/-!
# Enumerations — how the header for C++ goes with the one for C

An enumeration of the header for C++ repeats constants that the header for C has as macros, and is
held by a type that the header for C may define.  Neither is looked up there: the constants come
from a group, and the type is chosen by the name and kind of the group.  This file says when the
values are the same, and when the type is defined.

* `class_of_mem`, `define_of_mem`, `types_of_cHeader` — what enumerations, macros and type
  definitions are made from.
* `Registry.Redeclares` — the first declaration of a constant and the first with a group; they are
  the same unless the first of all lacks the group.
* `enumerators_valued` — the values on either side; `redeclared_value` — they can differ.
* `Registry.IsParameter` — groups are referred to by parameters, and types too.
* `bases_defined` — which of the types that hold enumerations are defined; `base_undefined` — one
  that is not.
-/

/-! ### The headers -/

section Headers

variable {r : Registry} {c : Context}

/-- An enumeration is for a referenced group and has an enumerator for each of its constants. -/
theorem class_of_mem (hc : c.catalog = ofRegistry r) {wrapping : CppHeader}
    (h : c.cppHeader = .ok wrapping) {e : EnumClass} (he : e ∈ wrapping.classes) :
    (∃ names, (ofRegistry r).referencedGroups c.names = .ok names ∧ e.name ∈ names)
      ∧ ∃ members, (ofRegistry r).group e.name = .ok members
        ∧ e.enumerators = members.map EnumClass.enumeratorOf
        ∧ e.base = EnumClass.baseType e.name ((ofRegistry r).isBitmaskGroup e.name) := by
  obtain ⟨gs, -, hgs, -, hclasses, -⟩ := cppHeader_eq_ok h
  rw [hclasses] at he
  obtain ⟨g, hg, rfl⟩ := List.mem_map.mp he
  rw [Context.groups, hc, bind_eq_ok] at hgs
  obtain ⟨names, hnames, hgs⟩ := hgs
  -- each group was looked up under a name, and keeps it
  obtain ⟨name, hmem, hname⟩ := (mem_of_mapM_eq_ok hgs).mp hg
  rw [Context.groupNamed, hc, bind_eq_ok] at hname
  obtain ⟨members, hmembers, hg⟩ := hname
  obtain rfl := Except.ok.inj hg
  exact ⟨⟨names, hnames, hmem⟩, members, hmembers, rfl, rfl⟩

/-- A macro has the value of the first declaration of its constant. -/
theorem define_of_mem (hc : c.catalog = ofRegistry r) {header : CHeader}
    (h : c.cHeader = .ok header) {d : Define} (hd : d ∈ header.defines) :
    ∃ first, r.constantNamed d.name = some first ∧ d.value = first.value := by
  obtain ⟨-, ks, -, hks, -, hdefines⟩ := cHeader_eq_ok h
  rw [Context.constants, hc] at hks
  rw [hdefines] at hd
  obtain ⟨first, hfirst, rfl⟩ := List.mem_map.mp hd
  obtain ⟨-, hfirsts⟩ := firsts_of_mapM_eq_ok (fun _ _ => constant_eq_ok.mp) hks
  exact ⟨first, hfirsts first hfirst, rfl⟩

/-- The header for C defines the types that are referenced. -/
theorem types_of_cHeader {header : CHeader} (h : c.cHeader = .ok header) :
    ∃ ts, c.types = .ok ts ∧ header.types = ts.map (·.definition) := by
  rw [Context.cHeader] at h
  simp only [bind_eq_ok] at h
  obtain ⟨ts, hts, _, _, _, _, h⟩ := h
  obtain rfl := Except.ok.inj h
  exact ⟨ts, hts, rfl⟩

end Headers

/-! ### Values -/

/-- What is found among some values of a list is what is found among all, or that one stands before
it and is not among them. -/
theorem eq_or_sublist_of_find?_filter {α : Type} {p q : α → Bool} {l : List α} {a b : α}
    (ha : l.find? p = some a) (hb : (l.filter q).find? p = some b) :
    a = b ∨ q a = false ∧ [a, b].Sublist l := by
  induction l with
  | nil => cases ha
  | cons x l ih =>
    cases hp : p x with
    | false =>
      -- `x` is passed over in either search
      rw [List.find?_cons_of_neg (by simp [hp])] at ha
      have hrest : (l.filter q).find? p = some b := by
        rw [List.filter_cons] at hb
        split at hb
        · rwa [List.find?_cons_of_neg (by simp [hp])] at hb
        · exact hb
      exact (ih ha hrest).imp_right fun h => ⟨h.1, h.2.cons x⟩
    | true =>
      rw [List.find?_cons_of_pos hp, Option.some.injEq] at ha
      subst ha
      cases hq : q x with
      | true =>
        rw [List.filter_cons_of_pos hq, List.find?_cons_of_pos hp, Option.some.injEq] at hb
        exact .inl hb
      | false =>
        rw [List.filter_cons_of_neg (by simp [hq])] at hb
        have hmem : b ∈ l := (List.mem_filter.mp (List.mem_of_find?_eq_some hb)).1
        exact .inr ⟨rfl, (List.singleton_sublist.mpr hmem).cons_cons x⟩

/-- Of the declarations of a constant, `first` is the first, and `k` the first that is tagged with
a group.  They are the same, unless `first` is not tagged with the group. -/
structure Registry.Redeclares (r : Registry) (group : String) (first k : Constant) : Prop where
  firstOfAll : r.constants.find? (·.name == k.name) = some first
  firstTagged : (tagged r group).find? (·.name == k.name) = some k
  sameOrBefore : first = k ∨ group ∉ first.groups ∧ [first, k].Sublist r.constants

section Values

variable {r : Registry} {group : String} {first k : Constant}

/-- A constant of a group has a first declaration. -/
theorem exists_redeclares {members : List Constant}
    (h : (ofRegistry r).group group = .ok members) (hk : k ∈ members) :
    ∃ first, r.Redeclares group first k := by
  obtain ⟨-, rfl⟩ := (group_eq_ok r).mp h
  have htagged := find?_of_mem_firstOfEach hk
  have hmem : k ∈ r.constants := (List.mem_filter.mp (List.mem_of_find?_eq_some htagged)).1
  obtain ⟨first, hfirst⟩ : ∃ first, r.constants.find? (·.name == k.name) = some first :=
    Option.isSome_iff_exists.mp (List.find?_isSome.mpr ⟨k, hmem, beq_self_eq_true _⟩)
  refine ⟨first, hfirst, htagged, ?_⟩
  -- tagged declarations are some of all in the same order
  refine (eq_or_sublist_of_find?_filter hfirst htagged).imp_right fun h => ⟨?_, h.2⟩
  rw [← inGroup_iff, h.1]
  exact Bool.false_ne_true

/-- When the first declaration is tagged with the group, it is the one that the group has. -/
theorem Registry.Redeclares.value_eq (h : r.Redeclares group first k)
    (hgroup : group ∈ first.groups) : first.value = k.value := by
  rcases h.sameOrBefore with rfl | ⟨hnot, -⟩
  · rfl
  · exact absurd hgroup hnot

end Values

/-- **The values of constants.**  A constant of a group can be looked up by its name, which leads
to its first declaration, while the group has the first one that is tagged with it.  So wherever
the headers can be made, a macro and an enumerator for the same constant have the values of these
two declarations.  They have the same value when the first declaration of the constant is tagged
with the group of the enumeration. -/
theorem enumerators_valued (r : Registry) :
    (∀ group members, (ofRegistry r).group group = .ok members → ∀ k ∈ members,
      ∃ first, (ofRegistry r).constant k.name = .ok first ∧ r.Redeclares group first k
        ∧ (group ∈ first.groups → first.value = k.value))
    ∧ ∀ (c : Context) (files : List Preview), c.catalog = ofRegistry r →
      c.preview .cpp = .ok files → ∃ header loader wrapping,
        c.cHeader = .ok header ∧ c.cLoader = .ok loader ∧ c.cppHeader = .ok wrapping
        ∧ files = [.of header.file, .of loader.file, .of wrapping.file]
        ∧ ∀ e ∈ wrapping.classes, ∃ members, (ofRegistry r).group e.name = .ok members
          ∧ e.enumerators = members.map EnumClass.enumeratorOf
          ∧ ∀ k ∈ members, ∀ d ∈ header.defines, d.name = k.name →
            ∃ first, d.value = first.value ∧ r.Redeclares e.name first k
              ∧ (e.name ∈ first.groups → d.value = (EnumClass.enumeratorOf k).value) := by
  constructor
  · intro group members h k hk
    obtain ⟨first, hfirst⟩ := exists_redeclares h hk
    exact ⟨first, constant_eq_ok.mpr hfirst.firstOfAll, hfirst, hfirst.value_eq⟩
  · intro c files hc hfiles
    obtain ⟨header, loader, wrapping, hheader, hloader, hwrapping, rfl⟩ :=
      preview_cpp_eq_ok.mp hfiles
    refine ⟨header, loader, wrapping, hheader, hloader, hwrapping, rfl, fun e he => ?_⟩
    obtain ⟨-, members, hmembers, henumerators, -⟩ := class_of_mem hc hwrapping he
    refine ⟨members, hmembers, henumerators, fun k hk d hd hname => ?_⟩
    -- the group has one of the declarations of the constant
    obtain ⟨first, hfirst⟩ := exists_redeclares hmembers hk
    -- the macro was made from the same first declaration
    obtain ⟨found, hfound, hvalue⟩ := define_of_mem hc hheader hd
    obtain rfl : found = first := by
      rw [hname] at hfound
      exact Option.some.inj (hfound.symm.trans hfirst.firstOfAll)
    exact ⟨found, hvalue, hfirst, fun hgroup => hvalue.trans (hfirst.value_eq hgroup)⟩

/-- A constant that is declared twice with two values, of which only the second is tagged with a
group, and one that is declared twice with the group. -/
def redeclaring : Registry where
  types := [⟨"GLenum", "typedef unsigned int GLenum;", none, none, none⟩]
  collections := [
    ⟨"GL", none, none, none, [
      ⟨"GL_ACTIVE_PROGRAM_EXT", "0x8259", [], some "gles2", none⟩,
      ⟨"GL_VERTEX_SHADER", "0x8B31", ["PipelineParameterName"], none, none⟩]⟩,
    ⟨"GL", none, none, none, [
      ⟨"GL_ACTIVE_PROGRAM_EXT", "0x8B8D", ["PipelineParameterName"], some "gl", none⟩,
      ⟨"GL_VERTEX_SHADER", "0x0001", ["PipelineParameterName"], none, none⟩]⟩]
  commands := [⟨"glGetPipeline", "void", none, none,
    [⟨"pname", "GLenum", false, 0, none, some "PipelineParameterName", none⟩], "GL", none⟩]
  features := [⟨"gl", "GL_VERSION_1_0", .ofPair 1 0,
    [⟨.ofList ["GL_ACTIVE_PROGRAM_EXT", "GL_VERTEX_SHADER"], .ofList ["glGetPipeline"], .empty,
      none, none⟩], []⟩]

/-- What bindings for all of it are made from. -/
def redeclaringContext : Context :=
  ⟨ofRegistry redeclaring, ⟨"gl", .ofPair 1 0, none⟩,
    ⟨.ofList ["glGetPipeline"], .ofList ["GL_ACTIVE_PROGRAM_EXT", "GL_VERTEX_SHADER"], .empty⟩,
    Stem.default⟩

/-- The context is the one that its selection consolidates to. -/
theorem ofSelection_redeclaring : Context.ofSelection (ofRegistry redeclaring)
    redeclaringContext.selection = .ok redeclaringContext := by
  have hfeatures : redeclaring.featuresUpTo "gl" (.ofPair 1 0) = redeclaring.features := by
    cbv
  rw [Context.ofSelection, Selection.consolidate, redeclaringContext, consolidate_eq (by decide),
    hfeatures]
  rfl

/-- The constant that has the group from its first declaration has one value in both headers. -/
theorem enumerators_redeclaring :
    (∃ members, (ofRegistry redeclaring).group "PipelineParameterName" = .ok members
      ∧ members.map (·.value) = ["0x8B31", "0x8B8D"]
      ∧ ∀ k ∈ members, ∃ first, redeclaring.Redeclares "PipelineParameterName" first k)
    ∧ ∃ (header : CHeader) (loader : CLoader) (wrapping : CppHeader),
      redeclaringContext.preview .cpp
        = .ok [.of header.file, .of loader.file, .of wrapping.file]
      ∧ ∀ e ∈ wrapping.classes, ∃ members : List Constant,
        e.enumerators = members.map EnumClass.enumeratorOf
        ∧ ∀ k ∈ members, ∀ d ∈ header.defines, d.name = k.name → ∃ first,
          redeclaring.Redeclares e.name first k ∧ (e.name ∈ first.groups → d.value = k.value) := by
  obtain ⟨hgroup, hheaders⟩ := enumerators_valued redeclaring
  constructor
  · obtain ⟨members, hmembers, hvalues⟩ : ∃ members,
        (ofRegistry redeclaring).group "PipelineParameterName" = .ok members
        ∧ members.map (·.value) = ["0x8B31", "0x8B8D"] := ⟨_, rfl, rfl⟩
    refine ⟨members, hmembers, hvalues, fun k hk => ?_⟩
    obtain ⟨first, -, hfirst, -⟩ := hgroup _ members hmembers k hk
    exact ⟨first, hfirst⟩
  · obtain ⟨files, hfiles⟩ : ∃ files, redeclaringContext.preview .cpp = .ok files :=
      ⟨_, preview_cpp_eq_ok.mpr ⟨_, _, _, rfl, rfl, rfl, rfl⟩⟩
    obtain ⟨header, loader, wrapping, -, -, -, rfl, hclasses⟩ :=
      hheaders redeclaringContext files rfl hfiles
    refine ⟨header, loader, wrapping, hfiles, fun e he => ?_⟩
    obtain ⟨members, -, henumerators, hvalues⟩ := hclasses e he
    refine ⟨members, henumerators, fun k hk d hd hname => ?_⟩
    obtain ⟨first, -, hfirst, hvalue⟩ := hvalues k hk d hd hname
    exact ⟨first, hfirst, hvalue⟩

/-- **Two values.**  A group can have a constant whose first declaration has another value, and then
the headers differ on it. -/
theorem redeclared_value :
    (∃ members, (ofRegistry redeclaring).group "PipelineParameterName" = .ok members
      ∧ ∃ k ∈ members, ∃ first, (ofRegistry redeclaring).constant k.name = .ok first
        ∧ first.value ≠ k.value)
    ∧ Context.ofSelection (ofRegistry redeclaring) redeclaringContext.selection
      = .ok redeclaringContext
    ∧ ∃ (header : CHeader) (loader : CLoader) (wrapping : CppHeader),
      redeclaringContext.cHeader = .ok header ∧ redeclaringContext.cppHeader = .ok wrapping
      ∧ redeclaringContext.preview .cpp
        = .ok [.of header.file, .of loader.file, .of wrapping.file]
      ∧ ⟨"GL_ACTIVE_PROGRAM_EXT", "0x8259"⟩ ∈ header.defines
      ∧ ∃ e ∈ wrapping.classes, ⟨"eACTIVE_PROGRAM_EXT", "0x8B8D"⟩ ∈ e.enumerators := by
  refine ⟨?_, ofSelection_redeclaring, ?_⟩
  · refine ⟨_, rfl, ⟨"GL_ACTIVE_PROGRAM_EXT", "0x8B8D", ["PipelineParameterName"], some "gl", none⟩,
      by decide, _, rfl, by decide⟩
  · refine ⟨_, _, _, rfl, rfl, preview_cpp_eq_ok.mpr ⟨_, _, _, rfl, rfl, rfl, rfl⟩, by decide, ?_⟩
    -- the enumerator is the second of the only enumeration
    exact ⟨_, List.mem_cons_self, List.mem_cons_of_mem _ List.mem_cons_self⟩

/-! ### Types -/

/-- The types that can hold the values of enumerations. -/
def EnumClass.bases : List String := ["GLenum", "GLbitfield", "GLboolean"]

/-- An enumeration has one of three base types. -/
theorem EnumClass.baseType_mem (group : String) (isBitmask : Bool) :
    EnumClass.baseType group isBitmask ∈ EnumClass.bases := by
  unfold EnumClass.baseType
  split
  · decide
  · split <;> decide

/-- A parameter of a command that a selection names. -/
def Registry.IsParameter (r : Registry) (s : NameSelection) (p : Parameter) : Prop :=
  ∃ name ∈ s.commands, ∃ d, r.commandNamed name = some d ∧ p ∈ d.params

section Types

variable {r : Registry} {s : NameSelection} {p : Parameter}

/-- Groups are referred to by parameters. -/
theorem exists_parameter_of_referencedGroups {names : NameSet} {group : String}
    (h : (ofRegistry r).referencedGroups s = .ok names) (hgroup : group ∈ names) :
    ∃ p, r.IsParameter s p ∧ p.groupName = some group := by
  rw [referencedGroups, bind_eq_ok] at h
  obtain ⟨ds, hds, h⟩ := h
  obtain rfl := Except.ok.inj h
  rw [NameSet.mem_ofList, List.mem_flatMap] at hgroup
  -- from the group back to the command and its parameter
  obtain ⟨d, hd, hgroup⟩ := hgroup
  obtain ⟨name, hname, hd⟩ := (mem_of_mapM_eq_ok hds).mp hd
  obtain ⟨p, hp, hpgroup⟩ := List.mem_filterMap.mp (List.mem_filter.mp hgroup).1
  exact ⟨p, ⟨name, hname, d, command_eq_ok.mp hd, hp⟩, hpgroup⟩

/-- The type of a parameter, when it is declared, is where a walk starts. -/
theorem Registry.IsParameter.isSeed (h : r.IsParameter s p) {t : TypeDef}
    (ht : r.typeNamed p.base = some t) : r.IsSeed s t := by
  obtain ⟨name, hname, d, hd, hp⟩ := h
  exact .inr ⟨name, hname, d, hd, p.base,
    List.mem_append_right _ (List.mem_map_of_mem hp), ht⟩

end Types

/-- **The types of enumerations.**  The type that holds an enumeration is one of three.  Where
these are declared and the headers can be made, the header for C defines it exactly when it is led
to from the types that the selection names and those that its commands return or take.  Every
enumeration is for the group of some parameter, but only the type of a parameter counts here. -/
theorem bases_defined (r : Registry)
    (hdeclared : ∀ name ∈ EnumClass.bases, ∃ t, r.typeNamed name = some t)
    (c : Context) (files : List Preview) (hc : c.catalog = ofRegistry r)
    (hfiles : c.preview .cpp = .ok files) : ∃ header loader wrapping printed,
      c.cHeader = .ok header ∧ c.cLoader = .ok loader ∧ c.cppHeader = .ok wrapping
      ∧ files = [.of header.file, .of loader.file, .of wrapping.file]
      ∧ (ofRegistry r).referencedTypes c.names = .ok printed
      ∧ header.types = printed.map (·.definition)
      ∧ ∀ e ∈ wrapping.classes, e.base ∈ EnumClass.bases
        ∧ (∃ t, r.typeNamed e.base = some t ∧ (e.base ∈ printed.map (·.name)
          ↔ ∃ seed, r.IsSeed c.names seed ∧ r.Reaches seed t))
        ∧ (∃ p, r.IsParameter c.names p ∧ p.groupName = some e.name)
        ∧ ∀ p, r.IsParameter c.names p → p.base = e.base → e.base ∈ printed.map (·.name) := by
  obtain ⟨header, loader, wrapping, hheader, hloader, hwrapping, rfl⟩ :=
    preview_cpp_eq_ok.mp hfiles
  obtain ⟨printed, hprinted, htypes⟩ := types_of_cHeader hheader
  rw [Context.types, hc] at hprinted
  refine ⟨header, loader, wrapping, printed, hheader, hloader, hwrapping, rfl, hprinted, htypes,
    fun e he => ?_⟩
  obtain ⟨⟨names, hnames, hgroup⟩, members, -, -, hbase⟩ := class_of_mem hc hwrapping he
  have hmem : e.base ∈ EnumClass.bases := hbase ▸ EnumClass.baseType_mem _ _
  obtain ⟨t, ht⟩ := hdeclared e.base hmem
  -- the printed types are those that are reached from a seed
  obtain ⟨harranged, hreached⟩ := arranged_of_referencedTypes hprinted
  -- of the types with the name, only the first declaration can be printed
  have hprinted_iff : e.base ∈ printed.map (·.name)
      ↔ ∃ seed, r.IsSeed c.names seed ∧ r.Reaches seed t := by
    rw [← hreached]
    refine ⟨harranged.mem_of_mem_names ht, fun h => ?_⟩
    exact List.mem_map.mpr ⟨t, h, name_of_find? ht⟩
  refine ⟨hmem, ⟨t, ht, hprinted_iff⟩, exists_parameter_of_referencedGroups hnames hgroup,
    fun p hp hpbase => ?_⟩
  exact hprinted_iff.mpr ⟨t, hp.isSeed (hpbase ▸ ht), .refl⟩

/-- A command that takes a constant of a group as a number, and a later one that takes it as
constants are taken. -/
def mistyped : Registry where
  types := [⟨"GLint", "typedef int GLint;", none, none, none⟩,
    ⟨"GLenum", "typedef unsigned int GLenum;", none, none, none⟩,
    ⟨"GLbitfield", "typedef unsigned int GLbitfield;", none, none, none⟩,
    ⟨"GLboolean", "typedef unsigned char GLboolean;", none, none, none⟩]
  collections := [⟨"GL", none, none, none, [⟨"GL_FRONT", "0x0404", ["TriangleFace"], none, none⟩]⟩]
  commands := [
    ⟨"glCullFace", "void", none, none,
      [⟨"mode", "GLint", false, 0, none, some "TriangleFace", none⟩], "GL", none⟩,
    ⟨"glCullMode", "void", none, none,
      [⟨"mode", "GLenum", false, 0, none, some "TriangleFace", none⟩], "GL", none⟩]
  features := [
    ⟨"gl", "GL_VERSION_1_0", .ofPair 1 0,
      [⟨.ofList ["GL_FRONT"], .ofList ["glCullFace"], .empty, none, none⟩], []⟩,
    ⟨"gl", "GL_VERSION_1_1", .ofPair 1 1,
      [⟨.empty, .ofList ["glCullMode"], .empty, none, none⟩], []⟩]

/-- What bindings for some of its commands are made from. -/
def mistypedContext (target : Version) (commands : List String) : Context :=
  ⟨ofRegistry mistyped, ⟨"gl", target, none⟩, ⟨.ofList commands, .ofList ["GL_FRONT"], .empty⟩,
    Stem.default⟩

/-- All three base types are declared. -/
theorem declared_mistyped : ∀ name ∈ EnumClass.bases, ∃ t, mistyped.typeNamed name = some t := by
  intro name hname
  fin_cases hname <;> exact ⟨_, rfl⟩

/-- The context is the one that its selection consolidates to. -/
theorem ofSelection_mistyped : Context.ofSelection (ofRegistry mistyped) ⟨"gl", .ofPair 1 0, none⟩
    = .ok (mistypedContext (.ofPair 1 0) ["glCullFace"]) := by
  have hfeatures : mistyped.featuresUpTo "gl" (.ofPair 1 0) = mistyped.features.take 1 := by
    cbv
  rw [Context.ofSelection, Selection.consolidate, consolidate_eq (by decide), hfeatures]
  rfl

/-- With both commands, the type that holds the group is defined. -/
theorem bases_mistyped : ∃ (header : CHeader) (loader : CLoader) (wrapping : CppHeader)
      (printed : List TypeDef),
    (mistypedContext (.ofPair 1 1) ["glCullFace", "glCullMode"]).preview .cpp
      = .ok [.of header.file, .of loader.file, .of wrapping.file]
    ∧ header.types = printed.map (·.definition)
    ∧ printed.map (·.name) = ["GLint", "GLenum"]
    ∧ ∀ e ∈ wrapping.classes, e.base ∈ EnumClass.bases
      ∧ ∀ p, mistyped.IsParameter
          (mistypedContext (.ofPair 1 1) ["glCullFace", "glCullMode"]).names p →
        p.base = e.base → e.base ∈ printed.map (·.name) := by
  obtain ⟨files, hfiles⟩ : ∃ files,
      (mistypedContext (.ofPair 1 1) ["glCullFace", "glCullMode"]).preview .cpp = .ok files :=
    ⟨_, preview_cpp_eq_ok.mpr ⟨_, _, _, rfl, rfl, rfl, rfl⟩⟩
  obtain ⟨header, loader, wrapping, printed, -, -, -, rfl, hprinted, htypes, hclasses⟩ :=
    bases_defined mistyped declared_mistyped _ files rfl hfiles
  have hnames : ((ofRegistry mistyped).referencedTypes
        (mistypedContext (.ofPair 1 1) ["glCullFace", "glCullMode"]).names).map
          (List.map (·.name)) = .ok ["GLint", "GLenum"] := by
    cbv
  rw [hprinted] at hnames
  refine ⟨header, loader, wrapping, printed, hfiles, htypes, Except.ok.inj hnames, fun e he => ?_⟩
  obtain ⟨hbase, -, -, hparameters⟩ := hclasses e he
  exact ⟨hbase, hparameters⟩

/-- **A type that is not defined.**  A parameter can be of a group and of a type that does not hold
the group.  Then the header for C++ uses a declared type that the header for C leaves out. -/
theorem base_undefined : (∀ name ∈ EnumClass.bases, ∃ t, mistyped.typeNamed name = some t)
    ∧ Context.ofSelection (ofRegistry mistyped) ⟨"gl", .ofPair 1 0, none⟩
      = .ok (mistypedContext (.ofPair 1 0) ["glCullFace"])
    ∧ ∃ (header : CHeader) (loader : CLoader) (wrapping : CppHeader) (printed : List TypeDef),
      (mistypedContext (.ofPair 1 0) ["glCullFace"]).preview .cpp
        = .ok [.of header.file, .of loader.file, .of wrapping.file]
      ∧ (mistypedContext (.ofPair 1 0) ["glCullFace"]).types = .ok printed
      ∧ header.types = printed.map (·.definition)
      ∧ printed.map (·.name) = ["GLint"]
      ∧ ∃ e ∈ wrapping.classes, e.base = "GLenum" := by
  refine ⟨declared_mistyped, ofSelection_mistyped, ?_⟩
  refine ⟨_, _, _, _, preview_cpp_eq_ok.mpr ⟨_, _, _, rfl, rfl, rfl, rfl⟩, rfl, rfl, by cbv, ?_⟩
  exact ⟨_, List.mem_cons_self, rfl⟩

end GLBindings
