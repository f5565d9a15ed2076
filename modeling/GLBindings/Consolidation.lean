import GLBindings.Catalog

namespace GLBindings

/-!
# Consolidation — the names that an api has at a version

First everything that the features of the api require up to the version is collected, then
everything that they remove is taken out. Types are never removed.

* `NameSelection` — the commands, constants and types that bindings are made for.
* `applies` — does a block count for a profile?
* `NameSelection.require`, `NameSelection.remove` — the effect of one block.
* `Catalog.consolidate` — the effect of all features.
-/

/-- The names that bindings are made for. -/
structure NameSelection where
  commands : NameSet
  enums : NameSet
  types : NameSet
  deriving DecidableEq, Inhabited

/-- Does a block that is tagged with `tag` apply under the filter? Without a filter all do, with
one those without a tag and those for the same profile. -/
def applies (filter tag : Option String) : Bool :=
  match filter, tag with
  | none, _ => true
  | some _, none => true
  | some profile, some t => t == profile

namespace NameSelection

/-- No names. -/
def empty : NameSelection := ⟨.empty, .empty, .empty⟩

/-- Are there no names? -/
def isEmpty (s : NameSelection) : Bool :=
  s.commands.isEmpty && s.enums.isEmpty && s.types.isEmpty

/-- Adds the names of a block. -/
def require (s : NameSelection) (b : RequireBlock) : NameSelection :=
  ⟨s.commands.extend b.commands, s.enums.extend b.enums, s.types.extend b.types⟩

/-! ### Removals -/

/-- What one name of a block takes out. -/
inductive Removal where
  | command (name : String)
  | enum (name : String)
  deriving Repr, DecidableEq

/-- The removals of a block in order. -/
def removalsOf (b : RemoveBlock) : List Removal :=
  b.commands.names.map .command ++ b.enums.names.map .enum

/-- Takes out one name, which must be there; `feature` is blamed if it is not. -/
def apply (feature : String) (s : NameSelection) : Removal → Except RegistryError NameSelection
  | .command name =>
    match s.commands.erase name with
    | .ok commands => .ok { s with commands := commands }
    | .error _ => .error (.unknown .removedCommand name
        s!"{feature} removes a command no earlier feature required")
  | .enum name =>
    match s.enums.erase name with
    | .ok enums => .ok { s with enums := enums }
    | .error _ => .error (.unknown .removedEnum name
        s!"{feature} removes an enum no earlier feature required")

/-- Takes out the names of a block. -/
def remove (feature : String) (s : NameSelection) (b : RemoveBlock) :
    Except RegistryError NameSelection :=
  (removalsOf b).foldlM (apply feature) s

/-! ### Features -/

/-- Adds what a feature requires under a filter. -/
def requireFeature (filter : Option String) (s : NameSelection) (f : Feature) : NameSelection :=
  (f.requires.filter fun b => applies filter b.profile).foldl require s

/-- Takes out what a feature removes under a filter. -/
def removeFeature (filter : Option String) (s : NameSelection) (f : Feature) :
    Except RegistryError NameSelection :=
  (f.removes.filter fun b => applies filter b.profile).foldlM (remove f.name) s

/-- Adds what all features require, then takes out what all remove. -/
def ofFeatures (filter : Option String) (features : List Feature) :
    Except RegistryError NameSelection :=
  features.foldlM (removeFeature filter) (features.foldl (requireFeature filter) empty)

end NameSelection

/-- The features of an api up to a version, in the order of the document. -/
def Catalog.featuresUpTo (c : Catalog) (api : String) (version : Version) : List Feature :=
  (c.featuresOf api).filter (·.number.le version)

/-- The names that an api has at a version. With a filter, blocks tagged with another profile do
not count. -/
def Catalog.consolidate (c : Catalog) (api : String) (version : Version) (filter : Option String) :
    Except RegistryError NameSelection :=
  if (c.featuresOf api).isEmpty then
    .error (.unknown .api api ("apis declared by the registry: " ++ ", ".intercalate c.apis))
  else
    NameSelection.ofFeatures filter (c.featuresUpTo api version)

end GLBindings
