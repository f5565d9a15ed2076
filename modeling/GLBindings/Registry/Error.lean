import GLBindings.Version
import GLBindings.Xml.Error

namespace GLBindings

open GLBindings.Text

/-!
# Registry — why a request to a registry fails

* `Malformation` — what a document lacks to be a registry.
* `RegistryError` — a document that cannot be read, or a name that is not there.
* `RegistryError.message`, `RegistryError.code` — the wording and a stable name of the cause.
-/

/-- What a document lacks to be a registry. -/
inductive Malformation where
  /-- The root element has another tag. -/
  | wrongRoot (tag : String)
  /-- No element with types. -/
  | noTypes
  /-- No element with commands. -/
  | noCommands
  /-- A type without a name. -/
  | unnamedType
  /-- An element without an attribute that it must have. -/
  | missingAttribute (tag name : String)
  /-- A command without a declaration. -/
  | noProto
  /-- A declaration without a name; `what` is declared. -/
  | unnamedDeclaration (what : String)
  /-- A command without a return type. -/
  | noReturnType (command : String)
  /-- A parameter without a type. -/
  | noType (parameter : String)
  /-- A feature whose number is not a version. -/
  | invalidNumber (number : String) (cause : Version.ParseError)
  deriving Repr, DecidableEq

/-- The wording of a malformation. -/
def Malformation.message : Malformation → String
  | wrongRoot tag => s!"expected <registry> root, found <{tag}>"
  | noTypes => "registry has no <types> section"
  | noCommands => "registry has no <commands> section"
  | unnamedType => "<type> has no name"
  | missingAttribute tag name => s!"<{tag}> is missing the '{name}' attribute"
  | noProto => "<command> has no <proto>"
  | unnamedDeclaration what => s!"{what} has no <name>"
  | noReturnType command => s!"command '{command}' has no return type"
  | noType parameter => s!"parameter '{parameter}' has no type"
  | invalidNumber number cause => s!"invalid feature number '{number}': {cause.message}"

/-- What a name that is not known was to be. -/
inductive IdentifierKind where
  | api
  | version
  | removedCommand
  | removedEnum
  deriving Repr, DecidableEq

/-- The words for a kind of identifier. -/
def IdentifierKind.text : IdentifierKind → String
  | api => "api"
  | version => "version"
  | removedCommand => "removed command"
  | removedEnum => "removed enum"

/-- What was looked up by name. -/
inductive LookupKind where
  | command
  | enum
  | type
  | group
  deriving Repr, DecidableEq

/-- The word for what was looked up. -/
def LookupKind.text : LookupKind → String
  | command => "command"
  | enum => "enum"
  | type => "type"
  | group => "group"

/-- Why a request to a registry fails. -/
inductive RegistryError where
  /-- The file is not there, or is not a text. -/
  | unreadable (path : String)
  /-- The text is not a document. -/
  | invalidXml (file : String) (span : Span) (cause : Xml.Error)
  /-- The document is not a registry; `span` is the element at fault. -/
  | malformed (file : String) (span : Span) (cause : Malformation)
  /-- A target or a removal names something unknown; `help` tells what is known. -/
  | unknown (kind : IdentifierKind) (name : String) (help : String)
  /-- Nothing is declared under the name. -/
  | notFound (kind : LookupKind) (name : String)
  deriving Repr, DecidableEq

namespace RegistryError

/-- The error for a text that is not a document, pointing at one byte. -/
def ofXml (file source : String) (e : Xml.Error) : RegistryError :=
  .invalidXml file ⟨byteOffset source e.place, 1⟩ e

/-- The wording of an error. -/
def message : RegistryError → String
  | unreadable path => s!"failed to read '{path}'"
  | invalidXml _ _ _ => "failed to parse registry XML"
  | malformed _ _ cause => s!"malformed specification: {cause.message}"
  | unknown kind name _ => s!"unknown {kind.text} '{name}'"
  | notFound kind name => s!"{kind.text} '{name}' not found"

/-- A name of the cause that does not depend on the wording. -/
def code : RegistryError → String
  | unreadable _ => "glgen::io"
  | invalidXml _ _ _ => "glgen::xml"
  | malformed _ _ _ => "glgen::malformed_specification"
  | unknown _ _ _ => "glgen::unknown_identifier"
  | notFound _ _ => "glgen::not_found"

end RegistryError

end GLBindings
