import GLBindings.NameSet
import GLBindings.Text.Blank
import GLBindings.Version

namespace GLBindings

/-!
# Registry — what an API registry declares

* `TypeDef` — a type and its definition in C.
* `Constant`, `Collection` — constants, tagged with the groups they belong to.
* `Parameter`, `Command` — functions and what they take.
* `RequireBlock`, `RemoveBlock`, `Feature` — what a version of an api adds and takes away.
* `Registry` — all declarations in the order of the document.
-/

/-- A type and its definition. -/
structure TypeDef where
  name : String
  /-- The text that defines it in C. -/
  definition : String
  /-- A type that the definition mentions. -/
  requires : Option String
  comment : Option String
  api : Option String
  deriving Repr, DecidableEq, Inhabited

/-! ### Constants -/

/-- A constant. -/
structure Constant where
  name : String
  /-- Its value as written. -/
  value : String
  /-- The groups it is tagged with. -/
  groups : List String
  api : Option String
  /-- Another name of the same constant. -/
  aliasOf : Option String
  deriving Repr, DecidableEq, Inhabited

namespace Constant

/-- A constant with nothing but a name and a value. -/
def ofValue (name value : String) : Constant := ⟨name, value, [], none, none⟩

/-- Is the constant tagged with this group? -/
def inGroup (c : Constant) (group : String) : Bool :=
  c.groups.contains group

/-- Tags the constant with a group, without the white space around its name. A blank name and a
group that it is tagged with change nothing. -/
def addGroup (c : Constant) (group : String) : Constant :=
  let group := Text.trim group
  if group = "" || c.inGroup group then c else { c with groups := c.groups ++ [group] }

/-- Tags the constant with each group of a list between commas. -/
def addGroupList (c : Constant) (list : String) : Constant :=
  ((Text.splitAt (· == ',') list.toList).map String.ofList).foldl addGroup c

end Constant

/-- Constants declared together. -/
structure Collection where
  namespaceName : String
  group : Option String
  /-- `bitmask` for constants that are combined bit by bit. -/
  kind : Option String
  vendor : Option String
  constants : List Constant
  deriving Repr, DecidableEq, Inhabited

/-- Are the constants combined bit by bit? -/
def Collection.isBitmask (c : Collection) : Bool :=
  c.kind == some "bitmask"

/-! ### Commands -/

/-- A parameter of a command. -/
structure Parameter where
  name : String
  /-- Its type without `const` and asterisks. -/
  base : String
  isConst : Bool
  /-- The number of asterisks. -/
  indirection : Nat
  /-- The class of objects that it names. -/
  owningClass : Option String
  group : Option String
  /-- How many values it points to. -/
  length : Option String
  deriving Repr, DecidableEq, Inhabited

namespace Parameter

/-- A parameter that is neither constant nor a pointer. -/
def ofType (name base : String) : Parameter := ⟨name, base, false, 0, none, none, none⟩

/-- Is the parameter a pointer? -/
def isPointer (p : Parameter) : Bool :=
  0 < p.indirection

/-- The group that the parameter takes its values from; an empty name counts as none. -/
def groupName (p : Parameter) : Option String :=
  p.group.filter (· ≠ "")

/-- Sets the group; an empty name takes it away. -/
def withGroup (p : Parameter) (group : String) : Parameter :=
  { p with group := if group = "" then none else some group }

end Parameter

/-- A command. -/
structure Command where
  name : String
  /-- Its return type as written. -/
  returnType : String
  /-- The registry type that the return type names. -/
  returnBase : Option String
  returnGroup : Option String
  params : List Parameter
  namespaceName : String
  /-- Another name of the same command. -/
  aliasOf : Option String
  deriving Repr, DecidableEq, Inhabited

namespace Command

/-- The class of objects that the command belongs to: the one of its first parameter. -/
def owningClass (c : Command) : Option String :=
  c.params.head?.bind (·.owningClass)

/-- Does the command return nothing? -/
def returnsVoid (c : Command) : Bool :=
  c.returnType == "void"

end Command

/-! ### Features -/

/-- Names that a feature adds. -/
structure RequireBlock where
  enums : NameSet
  commands : NameSet
  types : NameSet
  /-- The only profile that the block applies to. -/
  profile : Option String
  comment : Option String
  deriving DecidableEq, Inhabited

/-- Names that a feature takes away. -/
structure RemoveBlock where
  enums : NameSet
  commands : NameSet
  /-- The only profile that the block applies to. -/
  profile : Option String
  comment : Option String
  deriving DecidableEq, Inhabited

/-- A version of an api. -/
structure Feature where
  api : String
  name : String
  number : Version
  requires : List RequireBlock
  removes : List RemoveBlock
  deriving Inhabited

/-- All declarations in order. -/
structure Registry where
  types : List TypeDef
  collections : List Collection
  commands : List Command
  features : List Feature
  deriving Inhabited

/-- A registry without declarations. -/
def Registry.empty : Registry := ⟨[], [], [], []⟩

end GLBindings
