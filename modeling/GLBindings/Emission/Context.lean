import GLBindings.Code.Naming
import GLBindings.Reference
import GLBindings.Selection

namespace GLBindings

/-!
# Context — what bindings are made from

* `Context` — a catalog, a selection with its names, and the name of the bindings.
* `Context.ofSelection` — consolidates the names of a selection.
* `Context.groups` — the groups that the commands refer to, with their constants.
-/

/-- A group that commands refer to. -/
structure ReferencedGroup where
  name : String
  /-- Every constant that is tagged with the group. -/
  constants : List Constant
  /-- Are the constants combined bit by bit? -/
  isBitmask : Bool
  deriving Repr, DecidableEq

/-- What bindings are made from. -/
structure Context where
  catalog : Catalog
  selection : Selection
  /-- The names of the selection. -/
  names : NameSelection
  /-- The name of the bindings. -/
  stem : Stem
  deriving Inhabited

namespace Context

/-- The context of a selection, under the default name. -/
def ofSelection (catalog : Catalog) (selection : Selection) : Except RegistryError Context := do
  return ⟨catalog, selection, ← selection.consolidate catalog, Stem.default⟩

/-- The same under another name. -/
def withStem (c : Context) (stem : Stem) : Context := { c with stem := stem }

/-- The selection in words. -/
def label (c : Context) : String := c.selection.label

/-- The selected commands. -/
def commands (c : Context) : Except RegistryError (List Command) :=
  c.catalog.commandsIn c.names

/-- The selected constants. -/
def constants (c : Context) : Except RegistryError (List Constant) :=
  c.catalog.constantsIn c.names

/-- The types to define, each behind what it requires. -/
def types (c : Context) : Except RegistryError (List TypeDef) :=
  c.catalog.referencedTypes c.names

/-- A group with its constants. -/
def groupNamed (c : Context) (name : String) : Except RegistryError ReferencedGroup := do
  return ⟨name, ← c.catalog.group name, c.catalog.isBitmaskGroup name⟩

/-- The groups that the selected commands refer to. -/
def groups (c : Context) : Except RegistryError (List ReferencedGroup) := do
  (← c.catalog.referencedGroups c.names).names.mapM c.groupNamed

end Context

end GLBindings
