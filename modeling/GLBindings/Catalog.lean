import GLBindings.Index
import GLBindings.Registry.Error
import GLBindings.Registry.Model

namespace GLBindings

/-!
# Catalog — a registry with its look-ups

The look-ups are built once from the declarations in order. A name that is declared again keeps
its first declaration.

* `Catalog` — the registry and an index for each kind of question.
* `Catalog.ofRegistry` — builds the indexes.
* `Catalog.command`, `Catalog.constant`, `Catalog.typeDef` — declarations by name.
* `Catalog.group` — the constants tagged with a group.
* `Catalog.commandsOfClass`, `Catalog.featuresOf` — declarations by class and by api.
-/

/-- A registry with its look-ups. -/
structure Catalog where
  registry : Registry
  commands : Index Command
  constants : Index Constant
  types : Index TypeDef
  /-- The constants of each group by name. -/
  groups : Index (Index Constant)
  /-- The groups whose constants are combined bit by bit. -/
  bitmaskGroups : NameSet
  /-- The commands of each class of objects. -/
  classes : Index (List Command)
  /-- The features of each api. -/
  features : Index (List Feature)
  deriving Inhabited

/-! ### Building -/

/-- Adds a constant to each group that it is tagged with. -/
def indexGroups (groups : Index (Index Constant)) (c : Constant) : Index (Index Constant) :=
  c.groups.foldl (fun gs g => gs.update g .empty fun members => members.insertNew c.name c) groups

/-- The groups that a collection makes bitmasks: its own and the ones of its constants. -/
def Collection.bitmaskGroups (c : Collection) : List String :=
  if c.isBitmask then c.group.toList ++ c.constants.flatMap (·.groups) else []

/-- All constants in order. -/
def Registry.constants (r : Registry) : List Constant :=
  r.collections.flatMap (·.constants)

/-- The commands that belong to a class, with its name. -/
def Registry.classed (r : Registry) : List (String × Command) :=
  r.commands.filterMap fun c => c.owningClass.map (·, c)

namespace Catalog

/-- Builds the look-ups of a registry. -/
def ofRegistry (r : Registry) : Catalog where
  registry := r
  commands := .ofList (·.name) r.commands
  constants := .ofList (·.name) r.constants
  types := .ofList (·.name) r.types
  groups := r.constants.foldl indexGroups .empty
  bitmaskGroups := .ofList (r.collections.flatMap Collection.bitmaskGroups)
  classes := r.classed.foldl (fun ix (name, c) => ix.update name [] (· ++ [c])) .empty
  features := .group (·.api) r.features

/-! ### Look-ups -/

/-- What was looked up, or the error that nothing is there. -/
def found {α : Type} (kind : LookupKind) (name : String) : Option α → Except RegistryError α
  | some a => .ok a
  | none => .error (.notFound kind name)

/-- The first command with a name. -/
def command (c : Catalog) (name : String) : Except RegistryError Command :=
  found .command name (c.commands.find? name)

/-- The first constant with a name. -/
def constant (c : Catalog) (name : String) : Except RegistryError Constant :=
  found .enum name (c.constants.find? name)

/-- The first type with a name. -/
def typeDef (c : Catalog) (name : String) : Except RegistryError TypeDef :=
  found .type name (c.types.find? name)

/-- The constants tagged with a group, of each name the first. -/
def group (c : Catalog) (name : String) : Except RegistryError (List Constant) :=
  (found .group name (c.groups.find? name)).map (·.values)

/-- The constants tagged with a group; none if there is no such group. -/
def constantsInGroup (c : Catalog) (name : String) : List Constant :=
  (c.group name).toOption.getD []

/-- Is some constant tagged with the group? -/
def hasGroup (c : Catalog) (name : String) : Bool :=
  c.groups.contains name

/-- Is the group one of bits? -/
def isBitmaskGroup (c : Catalog) (name : String) : Bool :=
  name ∈ c.bitmaskGroups

/-- The commands whose first parameter is of a class. -/
def commandsOfClass (c : Catalog) (name : String) : List Command :=
  (c.classes.find? name).getD []

/-- The classes in the order of their first command. -/
def classNames (c : Catalog) : List String := c.classes.names

/-- The features of an api. -/
def featuresOf (c : Catalog) (api : String) : List Feature :=
  (c.features.find? api).getD []

/-- The apis in the order of their first feature. -/
def apis (c : Catalog) : List String := c.features.names

end Catalog

end GLBindings
