import GLBindings.Code.Fragment
import GLBindings.Code.Naming
import GLBindings.Emission.Context

namespace GLBindings

/-!
# Declarations — what generated files declare

Each kind of declaration is made from what the registry says, and has its own code.

* `Define` — a constant as a macro.
* `Pointer` — a command as a pointer to a function.
* `EnumClass` — a group of constants as a scoped enumeration.
* `Wrapper` — a command as an inline function.
-/

/-! ### Constants as macros -/

/-- A macro for a constant. -/
structure Define where
  name : String
  value : String
  deriving Repr, DecidableEq

namespace Define

/-- The macro for a constant. -/
def ofConstant (c : Constant) : Define := ⟨c.name, c.value⟩

/-- The code of a macro. -/
def fragments (d : Define) : List Fragment :=
  [.line s!"#define {d.name} {d.value}"]

end Define

/-! ### Commands as pointers

A command is called through a variable of its own name. The header declares the variable and its
type; the loader defines it and gives it its value. -/

/-- The pointer to a command. -/
structure Pointer where
  name : String
  returnType : String
  /-- The parameters with their types. -/
  params : List String
  deriving Repr, DecidableEq

namespace Pointer

/-- A parameter with its type. -/
def paramText (p : Parameter) : String :=
  Code.declaration p.isConst p.base p.indirection p.name

/-- The pointer to a command. -/
def ofCommand (c : Command) : Pointer :=
  ⟨c.name, c.returnType, c.params.map paramText⟩

/-- The type of the pointer. -/
def typeName (p : Pointer) : String :=
  Code.pointerTypeName p.name

/-- The parameters between the parentheses. -/
def paramList (p : Pointer) : String :=
  if p.params.isEmpty then "void" else ", ".intercalate p.params

/-- The definition of the type. -/
def typedef (p : Pointer) : String :=
  s!"typedef GLAPI {p.returnType} (GLCALLCONV *{p.typeName})({p.paramList});"

/-- The declaration of the variable. -/
def externDeclaration (p : Pointer) : String :=
  s!"extern {p.typeName} {p.name};"

/-- The definition of the variable. -/
def definition (p : Pointer) : String :=
  s!"{p.typeName} {p.name};"

/-- The assignment of what `loader` finds. -/
def loadStatement (p : Pointer) (loader : String) : String :=
  s!"{p.name} = ({p.typeName}){loader}(\"{p.name}\");"

/-- The code of the header. -/
def fragments (p : Pointer) : List Fragment :=
  [.line p.typedef, .line p.externDeclaration]

end Pointer

/-! ### Groups as enumerations -/

/-- A name with its value. -/
structure Enumerator where
  name : String
  value : String
  deriving Repr, DecidableEq

/-- A scoped enumeration. -/
structure EnumClass where
  name : String
  /-- The type that holds its values. -/
  base : String
  enumerators : List Enumerator
  deriving Repr, DecidableEq

namespace EnumClass

/-- The type that holds the values of a group. -/
def baseType (group : String) (isBitmask : Bool) : String :=
  if group = "Boolean" then "GLboolean" else if isBitmask then "GLbitfield" else "GLenum"

/-- The enumerator for a constant. -/
def enumeratorOf (c : Constant) : Enumerator :=
  ⟨CppNaming.convention.enumeratorName c.name, c.value⟩

/-- The enumeration for a group. -/
def ofGroup (g : ReferencedGroup) : EnumClass :=
  ⟨g.name, baseType g.name g.isBitmask, g.constants.map enumeratorOf⟩

/-- The code of an enumerator. -/
def enumeratorLine (e : Enumerator) : Fragment :=
  .line s!"{e.name} = {e.value},"

/-- The code of an enumeration. -/
def fragments (e : EnumClass) : List Fragment :=
  [.block s!"enum class {e.name} : {e.base} \x7b" (e.enumerators.map enumeratorLine) (some "\x7d;")]

end EnumClass

/-! ### Commands as inline functions

A parameter whose group has an enumeration takes a value of that enumeration, which is cast back
to the type of the command's parameter when it is handed on. -/

/-- A parameter of an inline function. -/
structure WrapperParam where
  name : String
  /-- The type of the command's parameter without `const` and asterisks. -/
  base : String
  isConst : Bool
  /-- The number of asterisks. -/
  indirection : Nat
  /-- The enumeration that the parameter takes its values from. -/
  group : Option String
  deriving Repr, DecidableEq

namespace WrapperParam

/-- The parameter for a parameter of a command; `hasClass` tells which groups have an
enumeration. -/
def ofParameter (hasClass : String → Bool) (p : Parameter) : WrapperParam where
  name := CppNaming.convention.paramName p.name
  base := p.base
  isConst := p.isConst
  indirection := p.indirection
  group := p.groupName.filter hasClass

/-- The parameter with its type. -/
def declaration (p : WrapperParam) : String :=
  Code.declaration p.isConst (p.group.getD p.base) p.indirection p.name

/-- The expression that is handed on. -/
def argument (p : WrapperParam) : String :=
  match p.group with
  | none => p.name
  | some _ =>
    if p.indirection = 0 then s!"static_cast<{p.base}>({p.name})"
    else
      let constness := if p.isConst then "const " else ""
      let asterisks := String.ofList (List.replicate p.indirection '*')
      s!"reinterpret_cast<{constness}{p.base} {asterisks}>({p.name})"

end WrapperParam

/-- An inline function that calls a command. -/
structure Wrapper where
  name : String
  /-- The command that is called. -/
  command : String
  returnType : String
  params : List WrapperParam
  deriving Repr, DecidableEq

namespace Wrapper

/-- The function for a command. -/
def ofCommand (hasClass : String → Bool) (c : Command) : Wrapper where
  name := CppNaming.convention.functionName c.name
  command := c.name
  returnType := c.returnType
  params := c.params.map (WrapperParam.ofParameter hasClass)

/-- The line that begins the function. -/
def signature (w : Wrapper) : String :=
  let params := ", ".intercalate (w.params.map WrapperParam.declaration)
  s!"inline {w.returnType} {w.name}({params}) \x7b"

/-- The call of the command, whose value is returned if it has one. -/
def call (w : Wrapper) : String :=
  let arguments := ", ".intercalate (w.params.map WrapperParam.argument)
  let call := s!"{w.command}({arguments});"
  if w.returnType = "void" then call else s!"return {call}"

/-- The code of the function. -/
def fragments (w : Wrapper) : List Fragment :=
  [.block w.signature [.line w.call] (some "\x7d")]

end Wrapper

end GLBindings
