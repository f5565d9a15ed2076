import GLBindings.Catalog
import GLBindings.Proofs.Index
import GLBindings.Proofs.NameSet
import GLBindings.Proofs.Traversal

namespace GLBindings

/-!
# Catalog — the look-ups agree with the registry

Each look-up of `ofRegistry r` is described by a scan of the declarations of `r` in order.

* `Registry.commandNamed`, `Registry.constantNamed`, `Registry.typeNamed` — the first declaration
  of a name; `find?_commands`, `find?_constants`, `find?_types` — the look-ups by name.
* `firsts_of_mapM_eq_ok` — what is found for several names in order.
* `featuresOf_ofRegistry`, `apis_ofRegistry` — by api, all features; `commandsOfClass_ofRegistry`,
  `classNames_ofRegistry` — by class, all commands that have it.
* `hasGroup_iff`, `group_eq_ok`, `isBitmaskGroup_iff` — by group, the first constant of each name
  among those tagged, and whether they are bits.
* `Catalog.Scans` — all of it as one specification; `ofRegistry_scans` — every catalog meets it.
-/

/-! ### First declarations -/

namespace Registry

variable (r : Registry) (name : String)

/-- The first declaration of a command. -/
def commandNamed : Option Command := r.commands.find? (·.name == name)

/-- The first declaration of a constant. -/
def constantNamed : Option Constant := r.constants.find? (·.name == name)

/-- The first declaration of a type. -/
def typeNamed : Option TypeDef := r.types.find? (·.name == name)

end Registry

section FirstNamed

variable {α : Type} {nameOf : α → String} {items : List α}

/-- The first declaration of a name has that name, whatever it declares. -/
theorem name_of_find? {name : String} {a : α} (h : items.find? (nameOf · == name) = some a) :
    nameOf a = name := by
  simpa using List.find?_some h

/-- **Looking names up in order.**  If what is found for a name is its first declaration, then what is
found for several names has these names in order, and each is the first declaration of its name. -/
theorem firsts_of_mapM_eq_ok {look : String → Except RegistryError α} {names : List String}
    {found : List α}
    (hlook : ∀ name a, look name = .ok a → items.find? (nameOf · == name) = some a)
    (h : names.mapM look = .ok found) :
    found.map nameOf = names
      ∧ ∀ a ∈ found, items.find? (nameOf · == nameOf a) = some a := by
  constructor
  · have hname : ∀ name a, look name = .ok a → nameOf a = id name :=
      fun name a ha => name_of_find? (hlook name a ha)
    rw [map_eq_of_mapM_eq_ok hname h, List.map_id]
  · intro a ha
    obtain ⟨name, -, hfound⟩ := (mem_of_mapM_eq_ok h).mp ha
    have hfirst := hlook name a hfound
    rwa [name_of_find? hfirst]

end FirstNamed

namespace Catalog

/-! ### By name -/

section Found

variable {α : Type}

/-- What was found is the answer. -/
theorem found_eq_ok {kind : LookupKind} {name : String} {o : Option α} {a : α} :
    found kind name o = .ok a ↔ o = some a := by
  cases o <;> simp [found]

/-- Where nothing was found, the error tells what was looked for. -/
theorem found_eq_error {kind : LookupKind} {name : String} {o : Option α} {e : RegistryError} :
    found kind name o = .error e ↔ o = none ∧ e = .notFound kind name := by
  cases o <;> simp [found, eq_comm]

end Found

variable (r : Registry) {name : String}

/-- The index of commands has the first declaration of each name. -/
@[simp] theorem find?_commands (name : String) :
    (ofRegistry r).commands.find? name = r.commandNamed name :=
  Index.find?_ofList _ _ name

/-- So has the one of constants, over all collections. -/
@[simp] theorem find?_constants (name : String) :
    (ofRegistry r).constants.find? name = r.constantNamed name :=
  Index.find?_ofList _ _ name

/-- And the one of types. -/
@[simp] theorem find?_types (name : String) :
    (ofRegistry r).types.find? name = r.typeNamed name :=
  Index.find?_ofList _ _ name

variable {r}

/-- A look-up of a command answers with its first declaration. -/
theorem command_eq_ok {c : Command} :
    (ofRegistry r).command name = .ok c ↔ r.commandNamed name = some c := by
  rw [command, find?_commands, found_eq_ok]

/-- A look-up of a constant answers with its first declaration. -/
theorem constant_eq_ok {c : Constant} :
    (ofRegistry r).constant name = .ok c ↔ r.constantNamed name = some c := by
  rw [constant, find?_constants, found_eq_ok]

/-- A look-up of a type answers with its first declaration. -/
theorem typeDef_eq_ok {t : TypeDef} :
    (ofRegistry r).typeDef name = .ok t ↔ r.typeNamed name = some t := by
  rw [typeDef, find?_types, found_eq_ok]

variable (r)

/-! ### By api -/

theorem features_ofRegistry : (ofRegistry r).features = Index.collect (·.api) id r.features := rfl

/-- The features of an api are those that the registry declares for it, in order. -/
theorem featuresOf_ofRegistry (api : String) :
    (ofRegistry r).featuresOf api = r.features.filter (·.api == api) := by
  rw [featuresOf, features_ofRegistry, Index.find?_collect, List.map_id]

/-- The apis are those of the features, each at its first. -/
theorem apis_ofRegistry : (ofRegistry r).apis = (r.features.map (·.api)).eraseDups := by
  rw [apis, features_ofRegistry, Index.names_collect]

/-- The features of all apis together are all features. -/
theorem perm_featuresOf :
    ((ofRegistry r).apis.flatMap (ofRegistry r).featuresOf).Perm r.features := by
  have hall := Index.perm_collect (·.api) id r.features
  rwa [List.map_id, ← features_ofRegistry] at hall

/-! ### By class -/

theorem classes_ofRegistry : (ofRegistry r).classes = Index.collect (·.1) (·.2) r.classed := rfl

/-- The commands of a class are those whose first parameter is of it, in order. -/
theorem commandsOfClass_ofRegistry (name : String) :
    (ofRegistry r).commandsOfClass name = r.commands.filter (·.owningClass == some name) := by
  rw [commandsOfClass, classes_ofRegistry, Index.find?_collect, Registry.classed,
    List.filter_filterMap, List.map_filterMap, ← List.filterMap_eq_filter]
  -- a command is kept with its class, and then without it
  refine List.filterMap_congr fun c _ => ?_
  cases h : c.owningClass with
  | none => simp [Option.guard, h]
  | some other => by_cases e : other = name <;> simp [Option.guard, h, e]

/-- The classes are those of the commands, each at its first. -/
theorem classNames_ofRegistry :
    (ofRegistry r).classNames = (r.commands.filterMap (·.owningClass)).eraseDups := by
  rw [classNames, classes_ofRegistry, Index.names_collect, Registry.classed, List.map_filterMap]
  simp [Function.comp_def]

/-- The commands of all classes together are all that have a class. -/
theorem perm_commandsOfClass :
    ((ofRegistry r).classNames.flatMap (ofRegistry r).commandsOfClass).Perm
      (r.commands.filter (·.owningClass.isSome)) := by
  -- the index was filled with pairs of a class and a command
  have hclassed : r.classed.map (·.2) = r.commands.filter (·.owningClass.isSome) := by
    rw [Registry.classed, List.map_filterMap, ← List.filterMap_eq_filter]
    refine List.filterMap_congr fun c _ => ?_
    cases h : c.owningClass <;> simp [Option.guard, h]
  have hall := Index.perm_collect (·.1) (·.2) r.classed
  rwa [← classes_ofRegistry, hclassed] at hall

/-! ### By group -/

/-- The constants of a registry that are tagged with a group. -/
def tagged (group : String) : List Constant :=
  r.constants.filter (·.inGroup group)

/-- A constant is in the groups that it is tagged with. -/
theorem inGroup_iff {c : Constant} {group : String} :
    c.inGroup group = true ↔ group ∈ c.groups := by
  rw [Constant.inGroup, List.contains_iff_mem]

/-- The group index, built pair by pair of a group and a constant that is tagged with it. -/
theorem groups_ofRegistry : (ofRegistry r).groups
    = (r.constants.flatMap fun c => c.groups.map (·, c)).foldl
        (fun groups p => groups.update p.1 .empty fun members => members.insertNew p.2.name p.2)
        .empty := by
  rw [List.foldl_flatMap]
  simp only [List.foldl_map]
  rfl

/-- A group has an entry exactly when some constant is tagged with it. -/
theorem hasGroup_iff {group : String} :
    (ofRegistry r).hasGroup group = true ↔ ∃ c ∈ r.constants, group ∈ c.groups := by
  -- the names of the index do not depend on what is put into a group
  have hnames : (ofRegistry r).groups.names
      = ((r.constants.flatMap fun c => c.groups.map (·, c)).map (·.1)).eraseDups := by
    rw [groups_ofRegistry]
    exact Index.names_foldl (fun ix p => Index.names_update ix p.1 _ _) .empty List.nodup_nil _
  rw [hasGroup, Index.contains_eq_contains_names, List.contains_iff_mem, hnames, List.mem_eraseDups]
  simp

/-- A group is one of bits when a collection of bits is for it, or has a constant of it. -/
theorem isBitmaskGroup_iff {group : String} :
    (ofRegistry r).isBitmaskGroup group = true ↔ ∃ c ∈ r.collections, c.kind = some "bitmask"
      ∧ (c.group = some group ∨ ∃ k ∈ c.constants, group ∈ k.groups) := by
  rw [isBitmaskGroup, decide_eq_true_eq]
  show group ∈ NameSet.ofList _ ↔ _
  rw [NameSet.mem_ofList, List.mem_flatMap]
  -- collection by collection, of which only those of bits name groups
  refine exists_congr fun c => and_congr_right fun _ => ?_
  rw [Collection.bitmaskGroups, Collection.isBitmask]
  by_cases h : c.kind = some "bitmask" <;> simp [h]

/-- Offering a constant again and again adds it once. -/
theorem foldl_insertNew_same (c : Constant) (names : List String) (members : Index Constant) :
    names.foldl (fun members _ => members.insertNew c.name c) (members.insertNew c.name c)
      = members.insertNew c.name c := by
  induction names with
  | nil => rfl
  | cons _ names ih => rw [List.foldl_cons, Index.insertNew_insertNew, ih]

/-- A constant adds itself to the groups that it is tagged with, once to each. -/
theorem find?_indexGroups (groups : Index (Index Constant)) (c : Constant) (group : String) :
    ((indexGroups groups c).find? group).getD .empty
      = if c.inGroup group then ((groups.find? group).getD .empty).insertNew c.name c
        else (groups.find? group).getD .empty := by
  -- one update for each group that the constant is tagged with
  have hcollect := Index.find?_foldl_update id .empty
    (fun _ (members : Index Constant) => members.insertNew c.name c) c.groups groups group
  refine hcollect.trans ?_
  cases h : c.groups.filter (id · == group) with
  | nil =>
    have hnot : ¬ c.inGroup group = true := by
      rw [inGroup_iff]
      intro hmem
      exact List.filter_eq_nil_iff.mp h group hmem (beq_self_eq_true group)
    rw [if_neg hnot]
    rfl
  | cons g rest =>
    have hin : c.inGroup group = true := by
      have hg : g ∈ c.groups.filter (id · == group) := h ▸ List.mem_cons_self
      rw [List.mem_filter, beq_iff_eq] at hg
      exact inGroup_iff.mpr (hg.2 ▸ hg.1)
    -- a group that is listed twice gets the constant once all the same
    rw [if_pos hin, List.foldl_cons, foldl_insertNew_same]

/-- Whatever was indexed before, a group gains the constants that are tagged with it, in order, and
of each name the first. -/
theorem find?_foldl_indexGroups (constants : List Constant) (groups : Index (Index Constant))
    (group : String) :
    ((constants.foldl indexGroups groups).find? group).getD .empty
      = (constants.filter (·.inGroup group)).foldl (fun ix c => ix.insertNew c.name c)
          ((groups.find? group).getD .empty) := by
  induction constants generalizing groups with
  | nil => rfl
  | cons c constants ih =>
    rw [List.foldl_cons, ih, find?_indexGroups, List.filter_cons]
    -- either the constant is offered to the group, or it is filtered out
    cases c.inGroup group <;> rfl

/-- **The constants of a group.**  There are some exactly when a constant is tagged with it, and
then they are the first of each name among those that are. -/
theorem group_eq_ok {group : String} {constants : List Constant} :
    (ofRegistry r).group group = .ok constants
      ↔ (ofRegistry r).hasGroup group = true
        ∧ constants = firstOfEach (·.name) (tagged r group) := by
  -- a missing group counts as an empty one here, so that both cases are one equation
  have hvalues : (((ofRegistry r).groups.find? group).getD .empty).values
      = firstOfEach (·.name) (tagged r group) := by
    rw [← Index.values_ofList]
    exact congrArg Index.values (find?_foldl_indexGroups r.constants .empty group)
  unfold Catalog.group hasGroup Index.contains
  cases h : (ofRegistry r).groups.find? group with
  | none => simp [found, Except.map]
  | some members =>
    rw [h, Option.getD_some] at hvalues
    simp [found, Except.map, hvalues, eq_comm]

/-- A group is only missing when no constant is tagged with it. -/
theorem group_eq_error {group : String} {e : RegistryError} :
    (ofRegistry r).group group = .error e
      ↔ ¬ (ofRegistry r).hasGroup group = true ∧ e = .notFound .group group := by
  rw [Catalog.group, map_eq_error, found_eq_error, hasGroup, Index.contains,
    Option.not_isSome_iff_eq_none]

/-! ### All look-ups -/

/-- Looking a name up finds the first declaration with it, and reports when there is none. -/
def FindsFirst {α : Type} (kind : LookupKind) (nameOf : α → String) (declarations : List α)
    (lookUp : String → Except RegistryError α) : Prop :=
  ∀ name,
    (∀ a, lookUp name = .ok a ↔ declarations.find? (nameOf · == name) = some a)
    ∧ ∀ e, lookUp name = .error e
      ↔ (∀ a ∈ declarations, nameOf a ≠ name) ∧ e = .notFound kind name

/-- The look-ups of a catalog answer what scans of a registry in order answer. -/
structure Scans (c : Catalog) (r : Registry) : Prop where
  commands : FindsFirst .command (·.name) r.commands c.command
  /-- Constants are in the order of their collections. -/
  constants : FindsFirst .enum (·.name) (r.collections.flatMap (·.constants)) c.constant
  types : FindsFirst .type (·.name) r.types c.typeDef
  groups : ∀ g, c.hasGroup g = true ↔ ∃ k ∈ r.constants, g ∈ k.groups
  /-- A group has, of the constants tagged with it, the first of each name, in the order of these
  first ones. -/
  members : ∀ g members, c.group g = .ok members ↔ (∃ k ∈ r.constants, g ∈ k.groups)
    ∧ members.map (·.name) = ((tagged r g).map (·.name)).eraseDups
    ∧ ∀ k ∈ members, (tagged r g).find? (·.name == k.name) = some k
  noMembers : ∀ g e, c.group g = .error e
    ↔ (∀ k ∈ r.constants, g ∉ k.groups) ∧ e = .notFound .group g
  bitmasks : ∀ g, c.isBitmaskGroup g = true ↔ ∃ d ∈ r.collections, d.kind = some "bitmask"
    ∧ (d.group = some g ∨ ∃ k ∈ d.constants, g ∈ k.groups)
  /-- A command is of the class of its first parameter. -/
  commandsOfClass : ∀ name, c.commandsOfClass name
    = r.commands.filter fun d => d.params.head?.bind (·.owningClass) == some name
  classNames : c.classNames
    = (r.commands.filterMap fun d => d.params.head?.bind (·.owningClass)).eraseDups
  /-- The lists of the classes have every command with a class, and as often as it is declared. -/
  classed : (c.classNames.flatMap c.commandsOfClass).Perm
    (r.commands.filter fun d => (d.params.head?.bind (·.owningClass)).isSome)
  oneClass : ∀ d ∈ r.commands, (d.params.head?.bind (·.owningClass)).isSome = true →
    ∃! name, name ∈ c.classNames ∧ d ∈ c.commandsOfClass name
  featuresOf : ∀ api, c.featuresOf api = r.features.filter (·.api == api)
  apis : c.apis = (r.features.map (·.api)).eraseDups
  /-- The lists of the apis have every feature, and as often as it is declared. -/
  listed : (c.apis.flatMap c.featuresOf).Perm r.features
  oneApi : ∀ f ∈ r.features, ∃! api, api ∈ c.apis ∧ f ∈ c.featuresOf api

/-- What was found by a scan is the first, or there is nothing to be found. -/
theorem findsFirst_found {α : Type} {kind : LookupKind} {nameOf : α → String}
    {declarations : List α} {lookUp : String → Except RegistryError α}
    (h : ∀ name, lookUp name = found kind name (declarations.find? (nameOf · == name))) :
    FindsFirst kind nameOf declarations lookUp := by
  intro name
  rw [h]
  refine ⟨fun a => found_eq_ok, fun e => ?_⟩
  rw [found_eq_error, List.find?_eq_none]
  simp only [beq_iff_eq, ne_eq]

/-- A declaration with a key is in one list of those by key, the one of its key. -/
theorem existsUnique_list {α : Type} (key : α → Option String) {declarations : List α} {a : α}
    (ha : a ∈ declarations) {k : String} (hk : key a = some k) :
    ∃! name, name ∈ (declarations.filterMap key).eraseDups
      ∧ a ∈ declarations.filter (key · == some name) := by
  refine ⟨k, ⟨?_, ?_⟩, ?_⟩
  · rw [List.mem_eraseDups]
    exact List.mem_filterMap.mpr ⟨a, ha, hk⟩
  · rw [List.mem_filter, beq_iff_eq]
    exact ⟨ha, hk⟩
  · -- a list holds declarations of its own key only
    rintro other ⟨-, hother⟩
    rw [List.mem_filter, beq_iff_eq] at hother
    exact Option.some.inj (hother.2.symm.trans hk)

/-- **The look-ups are scans.**  Whatever a registry declares, and however often, each look-up of
its catalog answers like a scan of the declarations in order. -/
theorem ofRegistry_scans (r : Registry) : (ofRegistry r).Scans r := by
  constructor
  case commands =>
    exact findsFirst_found fun name => congrArg _ (find?_commands r name)
  case constants =>
    exact findsFirst_found fun name => congrArg _ (find?_constants r name)
  case types =>
    exact findsFirst_found fun name => congrArg _ (find?_types r name)
  case groups =>
    exact fun g => hasGroup_iff r
  case members =>
    intro g members
    rw [group_eq_ok, hasGroup_iff, eq_firstOfEach_iff]
  case noMembers =>
    intro g e
    rw [group_eq_error, hasGroup_iff]
    push Not
    rfl
  case bitmasks =>
    exact fun g => isBitmaskGroup_iff r
  case commandsOfClass =>
    exact commandsOfClass_ofRegistry r
  case classNames =>
    exact classNames_ofRegistry r
  case classed =>
    exact perm_commandsOfClass r
  case oneClass =>
    intro d hd hclass
    obtain ⟨name, hname⟩ := Option.isSome_iff_exists.mp hclass
    rw [classNames_ofRegistry]
    simp only [commandsOfClass_ofRegistry]
    exact existsUnique_list (·.owningClass) hd hname
  case featuresOf =>
    exact featuresOf_ofRegistry r
  case apis =>
    exact apis_ofRegistry r
  case listed =>
    exact perm_featuresOf r
  case oneApi =>
    intro f hf
    -- every feature has an api
    have hone := existsUnique_list (fun f : Feature => some f.api) hf rfl
    simpa [apis_ofRegistry, featuresOf_ofRegistry] using hone

end Catalog

end GLBindings
