import GLBindings.Consolidation

namespace GLBindings

/-!
# Reference — what selected names refer to

* `Catalog.referencedGroups` — the groups that parameters of the commands take values from.
* `requiredPath` — a type behind the types that it requires.
* `Catalog.referencedTypes` — the types to define, each behind what it requires.
-/

namespace Catalog

/-- The selected commands in order. -/
def commandsIn (c : Catalog) (s : NameSelection) : Except RegistryError (List Command) :=
  s.commands.names.mapM c.command

/-- The selected constants in order. -/
def constantsIn (c : Catalog) (s : NameSelection) : Except RegistryError (List Constant) :=
  s.enums.names.mapM c.constant

/-! ### Groups -/

/-- The groups of a command's parameters that have constants. -/
def groupsOf (c : Catalog) (command : Command) : List String :=
  (command.params.filterMap (·.groupName)).filter c.hasGroup

/-- The groups of the selected commands' parameters that have constants, each at its first use. -/
def referencedGroups (c : Catalog) (s : NameSelection) : Except RegistryError NameSet := do
  return NameSet.ofList ((← c.commandsIn s).flatMap c.groupsOf)

/-! ### Types -/

/-- A type behind the types that it requires, directly or through others, as far as they are
available. A type that is reached again on the way is not listed twice. -/
def requiredPath (available : Index TypeDef) (name : String) : List TypeDef :=
  match _h : available.find? name with
  | none => []
  | some t =>
    match t.requires with
    | none => [t]
    | some dependency => requiredPath (available.erase name) dependency ++ [t]
termination_by available.size
decreasing_by exact Index.size_erase_lt _h

/-- Lists a type behind what it requires, without the types that are listed already. -/
def listType (c : Catalog) (listed : List TypeDef) (name : String) : List TypeDef :=
  listed ++ requiredPath ⟨c.types.entries.filter fun e => listed.all (·.name != e.1)⟩ name

/-- The declared types among the base types of a command. -/
def baseTypes (c : Catalog) (command : Command) : List TypeDef :=
  (command.returnBase.toList ++ command.params.map (·.base)).filterMap c.types.find?

/-- The types that the selection names or its commands mention. -/
def seedTypes (c : Catalog) (s : NameSelection) : Except RegistryError (List TypeDef) := do
  let named ← s.types.names.mapM c.typeDef
  let commands ← c.commandsIn s
  return named ++ commands.flatMap c.baseTypes

/-- The types to define for a selection, each behind what it requires. -/
def referencedTypes (c : Catalog) (s : NameSelection) : Except RegistryError (List TypeDef) := do
  return ((← c.seedTypes s).map (·.name)).foldl c.listType []

end Catalog

end GLBindings
