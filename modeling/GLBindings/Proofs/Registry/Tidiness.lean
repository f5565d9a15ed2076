import GLBindings.Proofs.Catalog
import GLBindings.Proofs.Registry.MixedContent

namespace GLBindings

open GLBindings.Text
open GLBindings.Xml (Element)

/-!
# Tidiness — the texts of a registry that was read

Attributes and names are trimmed when they are read, and a blank one counts as absent.  So no
registry that was read has an empty name anywhere, and nothing is to be found under one.

* `TypeDef.IsTidy`, …, `Registry.IsTidy` — the names and optional texts of each kind of declaration
  are tidy, one predicate for each kind.
* `tidy_of_attributeText?`, `tidy_of_requiredText`, `tidy_of_childText?`, `tidy_of_declared` — the four
  ways to a text.
* `Constant.IsTidy.addGroup` — a constant stays tidy when it is tagged with whatever is left between
  two commas.
* `isTidy_typeDef`, …, `isTidy_registry` — what each reader makes is tidy.
* `Catalog.FindsNothing`, `findsNothing_of_isTidy` — what look-ups of an untidy name come to.
* `Registry.ReadsTidy`, `registry_tidy` — all of it, for every tree and every document that is read.
-/

/-! ### Tidy declarations -/

structure TypeDef.IsTidy (t : TypeDef) : Prop where
  name : Tidy t.name
  requires : ∀ s ∈ t.requires, Tidy s
  comment : ∀ s ∈ t.comment, Tidy s
  api : ∀ s ∈ t.api, Tidy s

structure Constant.IsTidy (c : Constant) : Prop where
  name : Tidy c.name
  value : Tidy c.value
  groups : ∀ g ∈ c.groups, Tidy g
  /-- The constant is tagged with each group once. -/
  distinct : c.groups.Nodup
  api : ∀ s ∈ c.api, Tidy s
  aliasOf : ∀ s ∈ c.aliasOf, Tidy s

structure Collection.IsTidy (c : Collection) : Prop where
  namespaceName : Tidy c.namespaceName
  group : ∀ s ∈ c.group, Tidy s
  kind : ∀ s ∈ c.kind, Tidy s
  vendor : ∀ s ∈ c.vendor, Tidy s
  constants : ∀ k ∈ c.constants, k.IsTidy

structure Parameter.IsTidy (p : Parameter) : Prop where
  name : Tidy p.name
  owningClass : ∀ s ∈ p.owningClass, Tidy s
  group : ∀ s ∈ p.group, Tidy s
  length : ∀ s ∈ p.length, Tidy s

structure Command.IsTidy (c : Command) : Prop where
  name : Tidy c.name
  returnGroup : ∀ s ∈ c.returnGroup, Tidy s
  params : ∀ p ∈ c.params, p.IsTidy
  namespaceName : Tidy c.namespaceName
  aliasOf : ∀ s ∈ c.aliasOf, Tidy s

structure RequireBlock.IsTidy (b : RequireBlock) : Prop where
  enums : ∀ n ∈ b.enums, Tidy n
  commands : ∀ n ∈ b.commands, Tidy n
  types : ∀ n ∈ b.types, Tidy n
  profile : ∀ s ∈ b.profile, Tidy s
  comment : ∀ s ∈ b.comment, Tidy s

structure RemoveBlock.IsTidy (b : RemoveBlock) : Prop where
  enums : ∀ n ∈ b.enums, Tidy n
  commands : ∀ n ∈ b.commands, Tidy n
  profile : ∀ s ∈ b.profile, Tidy s
  comment : ∀ s ∈ b.comment, Tidy s

structure Feature.IsTidy (f : Feature) : Prop where
  api : Tidy f.api
  name : Tidy f.name
  /-- The number has a component, and is what some text says. -/
  number : f.number.parts ≠ [] ∧ ∃ text, Tidy text ∧ Version.parse? text = .ok f.number
  requires : ∀ b ∈ f.requires, b.IsTidy
  removes : ∀ b ∈ f.removes, b.IsTidy

structure Registry.IsTidy (r : Registry) : Prop where
  types : ∀ t ∈ r.types, t.IsTidy
  collections : ∀ c ∈ r.collections, c.IsTidy
  commands : ∀ c ∈ r.commands, c.IsTidy
  features : ∀ f ∈ r.features, f.IsTidy

/-! ### Texts of elements -/

section Texts

variable {e : Element} {name s : String}

/-- A text that is kept is trimmed and not empty. -/
theorem tidy_of_nonBlank? {raw : String} (h : nonBlank? raw = some s) : Tidy s := by
  rw [nonBlank?, Option.filter_eq_some_iff, decide_eq_true_eq] at h
  -- what is kept is the trimmed text, and only when it is not empty
  obtain ⟨htrim, hne⟩ := h
  obtain rfl := Option.some.inj htrim
  exact tidy_trim hne

/-- An attribute counts as absent when it is blank and is trimmed otherwise. -/
theorem tidy_of_attributeText? (name : String) : ∀ s ∈ attributeText? e name, Tidy s := by
  intro s hs
  obtain ⟨raw, -, hraw⟩ := Option.bind_eq_some_iff.mp hs
  exact tidy_of_nonBlank? hraw

/-- The same for the text of a child. -/
theorem tidy_of_childText? {tag : String} (h : childText? e tag = some s) : Tidy s := by
  obtain ⟨child, -, hraw⟩ := Option.bind_eq_some_iff.mp h
  exact tidy_of_nonBlank? hraw

/-- A required attribute is one that does not count as absent. -/
theorem tidy_of_requiredText (h : requiredText e name = .ok s) : Tidy s := by
  rw [requiredText] at h
  -- the attribute counts as present, or the reader fails
  split at h
  · rename_i hvalue
    obtain rfl := Except.ok.inj h
    exact tidy_of_attributeText? name _ hvalue
  · cases h

/-- The name of a declaration is the text of a `<name>`. -/
theorem tidy_of_declared (h : (Declaration.ofElement e).name = some s ∧ s ≠ "") : Tidy s := by
  obtain ⟨hname, hne⟩ := h
  rw [Declaration.name_ofElement] at hname
  obtain ⟨child, -, rfl⟩ := Option.map_eq_some_iff.mp hname
  exact tidy_trim hne

/-- Each name of a block is a required attribute. -/
theorem tidy_of_namesOf {block : Element} {tag : String} {names : NameSet}
    (h : namesOf block tag = .ok names) : ∀ n ∈ names, Tidy n := by
  rw [namesOf, bind_eq_ok] at h
  obtain ⟨read, hread, h⟩ := h
  obtain rfl := Except.ok.inj h
  intro n hn
  rw [NameSet.mem_ofList] at hn
  exact forall_of_mapM_eq_ok (fun _ _ => tidy_of_requiredText) hread n hn

end Texts

/-! ### What readers make -/

/-- The name of a type is tidy wherever it is found. -/
theorem isTidy_typeDef {e : Element} {t : TypeDef} (h : TypeDef.ofElement e = .ok t) :
    t.IsTidy := by
  rw [TypeDef.ofElement] at h
  split at h
  · cases h
  · rename_i name hname
    obtain rfl := Except.ok.inj h
    -- the attribute goes first, and the child only counts without it
    have htidy : Tidy name := by
      rcases Option.or_eq_some_iff.mp hname with hattribute | ⟨-, hchild⟩
      · exact tidy_of_attributeText? _ _ hattribute
      · exact tidy_of_childText? hchild
    exact ⟨htidy, tidy_of_attributeText? _, tidy_of_attributeText? _, tidy_of_attributeText? _⟩

/-! #### Constants -/

namespace Constant.IsTidy

variable {c : Constant}

/-- Only a new group that is not blank is added, and it is trimmed before. -/
theorem addGroup (h : c.IsTidy) (group : String) : (c.addGroup group).IsTidy := by
  rw [Constant.addGroup]
  split
  · exact h
  · rename_i hnew
    rw [Bool.or_eq_true, decide_eq_true_eq, not_or, Catalog.inGroup_iff] at hnew
    obtain ⟨hne, hnotin⟩ := hnew
    refine { h with groups := ?_, distinct := ?_ }
    · intro g hg
      -- the groups that were there, and the new one
      rcases List.mem_append.mp hg with hg | hg
      · exact h.groups g hg
      · rw [List.mem_singleton.mp hg]
        exact tidy_trim hne
    · rw [← List.concat_eq_append, List.nodup_concat]
      exact ⟨hnotin, h.distinct⟩

/-- A list of groups is added group by group. -/
theorem addGroupList (h : c.IsTidy) (list : String) : (c.addGroupList list).IsTidy := by
  rw [Constant.addGroupList]
  generalize (splitAt (· == ',') list.toList).map String.ofList = groups
  -- on the groups of the list, for the constant as tagged so far
  induction groups generalizing c with
  | nil => exact h
  | cons g groups ih => exact ih (h.addGroup g)

end Constant.IsTidy

/-- A constant is tidy before it is tagged, and tagging keeps it so. -/
theorem isTidy_constant {e : Element} {c : Constant} (h : Constant.ofElement e = .ok c) :
    c.IsTidy := by
  simp only [Constant.ofElement, bind_eq_ok] at h
  obtain ⟨name, hname, value, hvalue, h⟩ := h
  obtain rfl := Except.ok.inj h
  -- before it is tagged, a constant has no groups
  have hplain : (Constant.ofValue name value).IsTidy :=
    ⟨tidy_of_requiredText hname, tidy_of_requiredText hvalue, by simp [Constant.ofValue],
      List.nodup_nil, by simp [Constant.ofValue], by simp [Constant.ofValue]⟩
  -- the list of groups is optional
  have htagged : (((e.attribute? "group").map (Constant.ofValue name value).addGroupList).getD
      (Constant.ofValue name value)).IsTidy := by
    cases e.attribute? "group" with
    | none => exact hplain
    | some list => exact hplain.addGroupList list
  exact { htagged with api := tidy_of_attributeText? _, aliasOf := tidy_of_attributeText? _ }

/-- A collection is tidy with all the constants in it. -/
theorem isTidy_collection {e : Element} {c : Collection} (h : Collection.ofElement e = .ok c) :
    c.IsTidy := by
  simp only [Collection.ofElement, bind_eq_ok] at h
  obtain ⟨namespaceName, hnamespace, constants, hconstants, h⟩ := h
  obtain rfl := Except.ok.inj h
  exact ⟨tidy_of_requiredText hnamespace, tidy_of_attributeText? _, tidy_of_attributeText? _,
    tidy_of_attributeText? _, forall_of_mapM_eq_ok (fun _ _ => isTidy_constant) hconstants⟩

/-! #### Commands -/

/-- A parameter has its name from its declaration and the rest from attributes. -/
theorem isTidy_parameter {e : Element} {p : Parameter} (h : Parameter.ofElement e = .ok p) :
    p.IsTidy := by
  obtain ⟨hname, -, -, -, hclass, hgroup, hlength⟩ := Declaration.parameter_ofElement_eq_ok.mp h
  constructor
  case name => exact tidy_of_declared hname
  case owningClass => exact hclass ▸ tidy_of_attributeText? _
  case group => exact hgroup ▸ tidy_of_attributeText? _
  case length => exact hlength ▸ tidy_of_attributeText? _

/-- A command has its namespace from the list it stands in, which must have a tidy one. -/
theorem isTidy_command {namespaceName : String} (hnamespace : Tidy namespaceName) {e : Element}
    {c : Command} (h : Command.ofElement namespaceName e = .ok c) : c.IsTidy := by
  obtain ⟨proto, -, hname, -, -, hgroup, hparams, rfl, halias⟩ :=
    Declaration.command_ofElement_eq_ok.mp h
  constructor
  case name => exact tidy_of_declared hname
  case returnGroup => exact hgroup ▸ tidy_of_attributeText? _
  case params => exact forall_of_mapM_eq_ok (fun _ _ => isTidy_parameter) hparams
  case namespaceName => exact hnamespace
  case aliasOf =>
    -- only the first alias counts, and only when it says of what
    intro s hs
    rw [halias] at hs
    obtain ⟨other, -, hother⟩ := Option.bind_eq_some_iff.mp hs
    exact tidy_of_attributeText? _ s hother

/-- It has: the namespace of a list is a required attribute. -/
theorem isTidy_commandsOf {e : Element} {commands : List Command}
    (h : commandsOf e = .ok commands) : ∀ c ∈ commands, c.IsTidy := by
  rw [commandsOf, bind_eq_ok] at h
  obtain ⟨namespaceName, hnamespace, hcommands⟩ := h
  exact forall_of_mapM_eq_ok (fun _ _ => isTidy_command (tidy_of_requiredText hnamespace)) hcommands

/-! #### Features -/

/-- The names in a block of requirements are tidy, whatever they name. -/
theorem isTidy_requireBlock {e : Element} {b : RequireBlock}
    (h : RequireBlock.ofElement e = .ok b) : b.IsTidy := by
  simp only [RequireBlock.ofElement, bind_eq_ok] at h
  obtain ⟨enums, henums, commands, hcommands, types, htypes, h⟩ := h
  obtain rfl := Except.ok.inj h
  exact ⟨tidy_of_namesOf henums, tidy_of_namesOf hcommands, tidy_of_namesOf htypes,
    tidy_of_attributeText? _, tidy_of_attributeText? _⟩

/-- The names in a block of removals are tidy. -/
theorem isTidy_removeBlock {e : Element} {b : RemoveBlock}
    (h : RemoveBlock.ofElement e = .ok b) : b.IsTidy := by
  simp only [RemoveBlock.ofElement, bind_eq_ok] at h
  obtain ⟨enums, henums, commands, hcommands, h⟩ := h
  obtain rfl := Except.ok.inj h
  exact ⟨tidy_of_namesOf henums, tidy_of_namesOf hcommands, tidy_of_attributeText? _,
    tidy_of_attributeText? _⟩

/-- The number of a feature is parsed from a tidy text. -/
theorem parse?_of_featureNumber {e : Element} {v : Version} (h : featureNumber e = .ok v) :
    ∃ text, Tidy text ∧ Version.parse? text = .ok v := by
  rw [featureNumber, bind_eq_ok] at h
  obtain ⟨text, htext, h⟩ := h
  refine ⟨text, tidy_of_requiredText htext, ?_⟩
  split at h
  · rename_i hparse
    rw [hparse, Except.ok.inj h]
  · cases h

/-- A feature is tidy with all its blocks, and its number has at least the one component it is
parsed to. -/
theorem isTidy_feature {e : Element} {f : Feature} (h : Feature.ofElement e = .ok f) :
    f.IsTidy := by
  simp only [Feature.ofElement, bind_eq_ok] at h
  obtain ⟨number, hnumber, api, hapi, name, hname, requires, hrequires, removes, hremoves, h⟩ := h
  obtain rfl := Except.ok.inj h
  exact ⟨tidy_of_requiredText hapi, tidy_of_requiredText hname,
    ⟨List.cons_ne_nil _ _, parse?_of_featureNumber hnumber⟩,
    forall_of_mapM_eq_ok (fun _ _ => isTidy_requireBlock) hrequires,
    forall_of_mapM_eq_ok (fun _ _ => isTidy_removeBlock) hremoves⟩

/-! #### The whole registry -/

/-- What is read of a tree is tidy, part by part. -/
theorem isTidy_registry {root : Element} {r : Registry} (h : Registry.ofElement root = .ok r) :
    r.IsTidy := by
  obtain ⟨htypes, hcollections, ⟨sections, hsections, hcommands⟩, hfeatures⟩ :=
    sections_of_registry_ofElement h
  refine ⟨forall_of_mapM_eq_ok (fun _ _ => isTidy_typeDef) htypes,
    forall_of_mapM_eq_ok (fun _ _ => isTidy_collection) hcollections, ?_,
    forall_of_mapM_eq_ok (fun _ _ => isTidy_feature) hfeatures⟩
  -- a command stands in one of the sections
  intro c hc
  rw [hcommands] at hc
  obtain ⟨commands, hmem, hc⟩ := List.mem_flatten.mp hc
  exact forall_of_mapM_eq_ok (fun _ _ => isTidy_commandsOf) hsections commands hmem c hc

/-! ### Looking up what is not tidy -/

namespace Registry.IsTidy

variable {r : Registry} {name : String}

/-- A constant is tidy in whichever collection it stands. -/
theorem constants (h : r.IsTidy) : ∀ k ∈ r.constants, k.IsTidy := by
  intro k hk
  obtain ⟨c, hc, hk⟩ := List.mem_flatMap.mp hk
  exact (h.collections c hc).constants k hk

/-- A class is the one of some parameter. -/
theorem owningClass (h : r.IsTidy) {c : Command} (hc : c ∈ r.commands) :
    ∀ s ∈ c.owningClass, Tidy s := by
  intro s hs
  obtain ⟨p, hp, hclass⟩ := Option.bind_eq_some_iff.mp hs
  exact ((h.commands c hc).params p (List.mem_of_mem_head? hp)).owningClass s hclass

end Registry.IsTidy

/-- Whatever a catalog is asked for under a name, it has nothing. -/
structure Catalog.FindsNothing (c : Catalog) (name : String) : Prop where
  command : c.command name = .error (.notFound .command name)
  constant : c.constant name = .error (.notFound .enum name)
  typeDef : c.typeDef name = .error (.notFound .type name)
  group : c.group name = .error (.notFound .group name)
  constantsInGroup : c.constantsInGroup name = []
  hasGroup : c.hasGroup name = false
  isBitmaskGroup : c.isBitmaskGroup name = false
  commandsOfClass : c.commandsOfClass name = []
  classNames : name ∉ c.classNames
  featuresOf : c.featuresOf name = []
  apis : name ∉ c.apis

/-- A list of tidy names has no other name to be found. -/
theorem find?_eq_none_of_tidy {α : Type} {nameOf : α → String} {as : List α}
    (h : ∀ a ∈ as, Tidy (nameOf a)) {name : String} (hname : ¬ Tidy name) :
    as.find? (nameOf · == name) = none := by
  rw [List.find?_eq_none]
  intro a ha hbeq
  exact hname (eq_of_beq hbeq ▸ h a ha)

/-- Every index of a catalog is made of tidy names, so no other name is found in any of them. -/
theorem findsNothing_of_isTidy {r : Registry} (h : r.IsTidy) {name : String}
    (hname : ¬ Tidy name) : (Catalog.ofRegistry r).FindsNothing name := by
  -- no constant is tagged with the name, so there is no such group
  have hgroup : ¬ (Catalog.ofRegistry r).hasGroup name = true := by
    rw [Catalog.hasGroup_iff]
    rintro ⟨k, hk, hmem⟩
    exact hname ((h.constants k hk).groups name hmem)
  have herror : (Catalog.ofRegistry r).group name = .error (.notFound .group name) :=
    (Catalog.group_eq_error r).mpr ⟨hgroup, rfl⟩
  constructor
  case command =>
    rw [Catalog.command, Catalog.find?_commands, Catalog.found_eq_error]
    exact ⟨find?_eq_none_of_tidy (fun c hc => (h.commands c hc).name) hname, rfl⟩
  case constant =>
    rw [Catalog.constant, Catalog.find?_constants, Catalog.found_eq_error]
    exact ⟨find?_eq_none_of_tidy (fun k hk => (h.constants k hk).name) hname, rfl⟩
  case typeDef =>
    rw [Catalog.typeDef, Catalog.find?_types, Catalog.found_eq_error]
    exact ⟨find?_eq_none_of_tidy (fun t ht => (h.types t ht).name) hname, rfl⟩
  case group => exact herror
  case constantsInGroup =>
    rw [Catalog.constantsInGroup, herror]
    rfl
  case hasGroup => exact Bool.eq_false_iff.mpr hgroup
  case isBitmaskGroup =>
    rw [Bool.eq_false_iff, ne_eq, Catalog.isBitmaskGroup_iff]
    -- the name would be the group of a collection, or of a constant in it
    rintro ⟨c, hc, -, hown | ⟨k, hk, hmem⟩⟩
    · exact hname ((h.collections c hc).group name hown)
    · exact hname (((h.collections c hc).constants k hk).groups name hmem)
  case commandsOfClass =>
    rw [Catalog.commandsOfClass_ofRegistry, List.filter_eq_nil_iff]
    intro c hc hclass
    exact hname (h.owningClass hc name (eq_of_beq hclass))
  case classNames =>
    rw [Catalog.classNames_ofRegistry, List.mem_eraseDups]
    intro hmem
    obtain ⟨c, hc, hclass⟩ := List.mem_filterMap.mp hmem
    exact hname (h.owningClass hc name hclass)
  case featuresOf =>
    rw [Catalog.featuresOf_ofRegistry, List.filter_eq_nil_iff]
    intro f hf hapi
    exact hname (eq_of_beq hapi ▸ (h.features f hf).api)
  case apis =>
    rw [Catalog.apis_ofRegistry, List.mem_eraseDups]
    intro hmem
    obtain ⟨f, hf, rfl⟩ := List.mem_map.mp hmem
    exact hname (h.features f hf).api

/-- A tidy group is a group. -/
theorem Parameter.IsTidy.groupName {p : Parameter} (h : p.IsTidy) : p.groupName = p.group := by
  rw [Parameter.groupName]
  cases hgroup : p.group with
  | none => rfl
  | some g => simp [(h.group g hgroup).nonempty]

/-- The texts of a registry are tidy, and what that means for whoever looks something up in it. -/
structure Registry.ReadsTidy (r : Registry) : Prop where
  tidy : r.IsTidy
  /-- Nothing is found under the empty name. -/
  empty : (Catalog.ofRegistry r).FindsNothing ""
  /-- Nor under any other name that is not tidy. -/
  untidy : ∀ name, ¬ Tidy name → (Catalog.ofRegistry r).FindsNothing name
  /-- The group of a parameter is the one that was read. -/
  groups : ∀ c ∈ r.commands, ∀ p ∈ c.params, p.groupName = p.group

/-- Tidiness carries over to the look-ups, whatever the registry was read from. -/
theorem Registry.IsTidy.readsTidy {r : Registry} (h : r.IsTidy) : r.ReadsTidy := by
  constructor
  case tidy => exact h
  case empty => exact findsNothing_of_isTidy h fun hempty => hempty.nonempty rfl
  case untidy => exact fun name hname => findsNothing_of_isTidy h hname
  case groups => exact fun c hc p hp => ((h.commands c hc).params p hp).groupName

/-- **Tidiness.**  Whatever tree of elements is read, no name in the registry is empty or has white
space at its ends, and an optional text is absent or like that.  So nothing is found under the empty
name, or under any other that is not tidy, and the group of a parameter is the one that was read.  This
holds in particular of the tree of every document that is read. -/
theorem registry_tidy (r : Registry) :
    (∀ root, Registry.ofElement root = .ok r → r.ReadsTidy)
    ∧ ∀ file text, Registry.parse file text = .ok r → r.ReadsTidy := by
  have htree : ∀ root, Registry.ofElement root = .ok r → r.ReadsTidy :=
    fun root h => (isTidy_registry h).readsTidy
  refine ⟨htree, fun file text h => ?_⟩
  obtain ⟨root, -, hread⟩ := registry_parse_eq_ok.mp h
  exact htree root hread

/-- A blank group of a parameter, and blank and repeated ones of a constant. -/
def blanks : String :=
  "<registry><types/><enums namespace='GL'><enum name='E' value='1 ' group='A,&#xA0;, A'/></enums>"
    ++ "<commands namespace='GL'><command><proto>int<name>f</name></proto>"
    ++ "<param group=' '>int<name> x </name></param></command></commands></registry>"

theorem parse_blanks : (Registry.parse "gl.xml" blanks).toOption.map (fun r =>
    (r.constants.map fun k => (k.value, k.groups),
      r.commands.flatMap fun c => c.params.map fun p => (p.name, p.group)))
    = some ([("1", ["A"])], [("x", none)]) := by decide +kernel

/-- The blank group is absent, and the repeated one is there once. -/
theorem registry_tidy_blanks : ∃ r, Registry.parse "gl.xml" blanks = .ok r
    ∧ r.constants.map (·.groups) = [["A"]] ∧ r.IsTidy ∧ (Catalog.ofRegistry r).FindsNothing ""
    ∧ ∀ c ∈ r.commands, ∀ p ∈ c.params, p.groupName = p.group := by
  obtain ⟨r, hr, hread⟩ := toOption_map_eq_some.mp parse_blanks
  obtain ⟨-, hparse⟩ := registry_tidy r
  have hreads : r.ReadsTidy := hparse "gl.xml" blanks hr
  have hmap : r.constants.map (·.groups) = (r.constants.map fun k => (k.value, k.groups)).map (·.2) := by
    rw [List.map_map]
    rfl
  refine ⟨r, hr, ?_, hreads.tidy, hreads.empty, hreads.groups⟩
  rw [hmap, (Prod.mk.inj hread).1]
  rfl

end GLBindings
