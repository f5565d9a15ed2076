import GLBindings.Registry.Declaration
import GLBindings.Registry.Model
import GLBindings.Xml.Document

namespace GLBindings

open GLBindings.Text
open GLBindings.Xml (Element)

/-!
# Registry — reading a registry from an element tree

Types are read first, then constants, commands and features, each in the order of the document,
so of several faults the first one in this order is reported.

* `Fault` — a malformation and the element at fault.
* `TypeDef.ofElement`, `Collection.ofElement`, `Command.ofElement`, `Feature.ofElement` — the
  readers of the parts.
* `Registry.ofElement` — a registry from the root of a tree.
* `Registry.parse` — a registry from the text of a document.
-/

/-- A malformation and the bytes of the element at fault. -/
structure Fault where
  /-- The element at fault. -/
  span : Span
  /-- What is wrong with it. -/
  cause : Malformation
  deriving Repr, DecidableEq

/-- A fault of an element. -/
def Fault.of (e : Element) (cause : Malformation) : Fault := ⟨e.span, cause⟩

/-! ### Attributes and texts -/

/-- A text without the white space around it, unless nothing is left. -/
def nonBlank? (s : String) : Option String :=
  some (trim s) |>.filter (· ≠ "")

/-- The trimmed value of an attribute; a blank one counts as absent. -/
def attributeText? (e : Element) (name : String) : Option String :=
  (e.attribute? name).bind nonBlank?

/-- The trimmed value of an attribute that must not be absent. -/
def requiredText (e : Element) (name : String) : Except Fault String :=
  match attributeText? e name with
  | some value => .ok value
  | none => .error (.of e (.missingAttribute e.tag name))

/-- The trimmed text in the first child with a tag; a blank one counts as absent. -/
def childText? (e : Element) (tag : String) : Option String :=
  (e.elements tag).head?.bind fun child => nonBlank? child.content

/-! ### Types -/

/-- The macro for the calling convention of function pointer types. -/
def callingConvention : String := "GLCALLCONV"

/-- What an element inside a type definition stands for, in front of its content. -/
def definitionMark (tag : String) : String :=
  if tag = "apientry" then callingConvention else ""

/-- Reads a type. -/
def TypeDef.ofElement (e : Element) : Except Fault TypeDef :=
  match (attributeText? e "name").or (childText? e "name") with
  | none => .error (.of e .unnamedType)
  | some name =>
    .ok {
      name := name
      definition := trim (e.toNode.contentWith definitionMark)
      requires := attributeText? e "requires"
      comment := attributeText? e "comment"
      api := attributeText? e "api" }

/-! ### Constants -/

/-- Reads a constant. -/
def Constant.ofElement (e : Element) : Except Fault Constant := do
  let name ← requiredText e "name"
  let value ← requiredText e "value"
  let tagged := ((e.attribute? "group").map (Constant.ofValue name value).addGroupList).getD
    (Constant.ofValue name value)
  return { tagged with api := attributeText? e "api", aliasOf := attributeText? e "alias" }

/-- Reads constants declared together. -/
def Collection.ofElement (e : Element) : Except Fault Collection := do
  let namespaceName ← requiredText e "namespace"
  let constants ← (e.elements "enum").mapM Constant.ofElement
  return {
    namespaceName := namespaceName
    group := attributeText? e "group"
    kind := attributeText? e "type"
    vendor := attributeText? e "vendor"
    constants := constants }

/-! ### Commands -/

/-- What an element declares, and the name of it, which must not be blank. -/
def declarationOf (e : Element) (what : String) : Except Fault (Declaration × String) :=
  let d := Declaration.ofElement e
  match d.name.filter (· ≠ "") with
  | some name => .ok (d, name)
  | none => .error (.of e (.unnamedDeclaration what))

/-- Reads a parameter. -/
def Parameter.ofElement (e : Element) : Except Fault Parameter := do
  let (d, name) ← declarationOf e "parameter"
  match d.base? with
  | none => .error (.of e (.noType name))
  | some base =>
    return {
      name := name
      base := base
      isConst := d.isConst
      indirection := d.indirection
      owningClass := attributeText? e "class"
      group := attributeText? e "group"
      length := attributeText? e "len" }

/-- Reads a command. -/
def Command.ofElement (namespaceName : String) (e : Element) : Except Fault Command :=
  match (e.elements "proto").head? with
  | none => .error (.of e .noProto)
  | some proto => do
    let (d, name) ← declarationOf proto "command"
    if d.fullType = "" then .error (.of proto (.noReturnType name))
    else
      let params ← (e.elements "param").mapM Parameter.ofElement
      return {
        name := name
        returnType := d.fullType
        returnBase := d.taggedType
        returnGroup := attributeText? proto "group"
        params := params
        namespaceName := namespaceName
        aliasOf := (e.elements "alias").head?.bind (attributeText? · "name") }

/-- Reads the commands of a section. -/
def commandsOf (part : Element) : Except Fault (List Command) := do
  let namespaceName ← requiredText part "namespace"
  (part.elements "command").mapM (Command.ofElement namespaceName)

/-! ### Features -/

/-- The names that the children with a tag stand for. -/
def namesOf (block : Element) (tag : String) : Except Fault NameSet := do
  return NameSet.ofList (← (block.elements tag).mapM (requiredText · "name"))

/-- Reads the names that a feature adds. -/
def RequireBlock.ofElement (e : Element) : Except Fault RequireBlock := do
  let enums ← namesOf e "enum"
  let commands ← namesOf e "command"
  let types ← namesOf e "type"
  return ⟨enums, commands, types, attributeText? e "profile", attributeText? e "comment"⟩

/-- Reads the names that a feature takes away. -/
def RemoveBlock.ofElement (e : Element) : Except Fault RemoveBlock := do
  let enums ← namesOf e "enum"
  let commands ← namesOf e "command"
  return ⟨enums, commands, attributeText? e "profile", attributeText? e "comment"⟩

/-- Reads the number of a feature. -/
def featureNumber (e : Element) : Except Fault Version := do
  let number ← requiredText e "number"
  match Version.parse? number with
  | .ok v => return v
  | .error cause => .error (.of e (.invalidNumber number cause))

/-- Reads a feature. -/
def Feature.ofElement (e : Element) : Except Fault Feature := do
  let number ← featureNumber e
  let api ← requiredText e "api"
  let name ← requiredText e "name"
  let requires ← (e.elements "require").mapM RequireBlock.ofElement
  let removes ← (e.elements "remove").mapM RemoveBlock.ofElement
  return ⟨api, name, number, requires, removes⟩

/-! ### The whole registry -/

namespace Registry

/-- Reads a registry from the root of a tree. -/
def ofElement (root : Element) : Except Fault Registry := do
  if root.tag ≠ "registry" then .error (.of root (.wrongRoot root.tag))
  else if (root.elements "types").isEmpty then .error (.of root .noTypes)
  else if (root.elements "commands").isEmpty then .error (.of root .noCommands)
  else
    let types ← ((root.elements "types").flatMap (·.elements "type")).mapM TypeDef.ofElement
    let collections ← (root.elements "enums").mapM Collection.ofElement
    let commands ← (root.elements "commands").mapM commandsOf
    let features ← (root.elements "feature").mapM Feature.ofElement
    return ⟨types, collections, commands.flatten, features⟩

/-- Reads a registry from a text; `file` is its name in errors. -/
def parse (file text : String) : Except RegistryError Registry :=
  match Xml.Document.parse text with
  | .error e => .error (.ofXml file text e)
  | .ok root =>
    match ofElement root with
    | .error fault => .error (.malformed file fault.span fault.cause)
    | .ok registry => .ok registry

end Registry

end GLBindings
