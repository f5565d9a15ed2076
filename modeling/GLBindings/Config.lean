import GLBindings.Code.Naming
import GLBindings.FileSystem
import GLBindings.Selection
import GLBindings.Toml.Document

namespace GLBindings

/-!
# Config — a project's configuration

Everything in the configuration can be left out, and everything but the list of versions can be
given on the command line instead.

* `Config` — what a configuration file holds.
* `Config.parse?` — reads a file's text; unknown keys and wrong types are refused.
* `Config.discover` — the file that was asked for, the usual one, or no configuration.
* `Config.target` — the target that a configuration and a user's choices describe.
-/

/-- What a configuration file holds. -/
structure Config where
  /-- The file of the registry. -/
  registryPath : Option Path
  api : Option String
  version : Option String
  profile : Option String
  /-- The directory that files are written to. -/
  outputDir : Option Path
  language : Option Language
  stem : Option Stem
  /-- Versions that take the place of the published ones, in the order of the apis' names. -/
  versions : List (String × List Version)
  deriving Inhabited

/-- Why there is no configuration or no target. -/
inductive ConfigError where
  /-- The file cannot be read. -/
  | unreadable (path : Path)
  /-- The file is not a configuration. -/
  | invalid (path : Path)
  /-- Nobody says which version is wanted. -/
  | noVersion
  deriving Repr, DecidableEq

/-- The wording of a failure. -/
def ConfigError.message : ConfigError → String
  | unreadable path => s!"Failed to read {path}"
  | invalid path => s!"Invalid config in {path}"
  | noVersion => "No target version; pass --version or set [target] version"

namespace Config

/-- The configuration without settings. -/
def empty : Config := ⟨none, none, none, none, none, none, none, []⟩

/-- The file that is looked for when none is asked for. -/
def usualPath : Path := "glgen.toml"

/-- The registry when none is set. -/
def usualRegistry : Path := "OpenGL-Registry/xml/gl.xml"

/-- The api when none is set. -/
def usualApi : String := "gl"

/-- The output directory when none is set. -/
def usualOutputDir : Path := "generated"

/-! ### Reading values -/

open Toml

/-- The values of named fields: entries of a table under no other names, or items of an array in
the order of the names. -/
def fields (names : List String) (v : Value) : Option (List (Option Value)) :=
  match v.items?, v.entries? with
  | some items, _ => some (names.zipIdx.map fun (_, i) => items[i]?)
  | none, some entries =>
    if entries.all (names.contains ·.1) then some (names.map entries.get?) else none
  | none, none => none

/-- A value that may be left out. -/
def optional {α : Type} (read : Value → Option α) : Option Value → Option (Option α)
  | none => some none
  | some v => (read v).map some

/-- A text. -/
def text : Value → Option String
  | .text s => some s
  | _ => none

/-- A language: its name, or a table with nothing under its name. -/
def language? : Value → Option Language
  | .text name => Language.ofConfigName? name
  | .table _ [(name, .table _ [])] => Language.ofConfigName? name
  | .table _ [(name, .array [])] => Language.ofConfigName? name
  | _ => none

/-- A version as a text. -/
def version? (v : Value) : Option Version := do
  (Version.parse? (← text v)).toOption

/-- A list of versions. -/
def versionList (v : Value) : Option (List Version) := do
  (← v.items?).mapM version?

/-- The versions of each api. -/
def versionTable (v : Value) : Option (List (String × List Version)) := do
  let table ← (← v.entries?).mapM fun (api, list) => do return (api, ← versionList list)
  return table.mergeSort fun a b => a.1 ≤ b.1

/-! ### Reading a file -/

/-- The settings of one section. A section that is left out has none. -/
def sectionFields (names : List String) : Option Value → Option (List (Option Value))
  | none => some (names.map fun _ => none)
  | some v => fields names v

/-- A document as a configuration. -/
def ofTable (t : Table) : Option Config := do
  let sections ← fields ["registry", "target", "output", "versions"] (.table .headed t)
  match sections with
  | [registry, target, output, versions] =>
    let registry ← sectionFields ["path"] registry
    let target ← sectionFields ["api", "version", "profile"] target
    let output ← sectionFields ["dir", "language", "prefix"] output
    match registry, target, output with
    | [path], [api, version, profile], [dir, language, stem] =>
      return {
        registryPath := ← optional text path
        api := ← optional text api
        version := ← optional text version
        profile := ← optional text profile
        outputDir := ← optional text dir
        language := ← optional language? language
        stem := ← optional text stem
        versions := (← optional versionTable versions).getD [] }
    | _, _, _ => none
  | _ => none

/-- The configuration that a text describes. -/
def parse? (s : String) : Option Config := do
  ofTable (← Toml.parse? s)

section Requests

variable {m : Type → Type} [Monad m] [FileSystem m]

/-- Reads a configuration file. -/
def load (path : Path) : m (Except ConfigError Config) := do
  match ← FileSystem.readText path with
  | none => return .error (.unreadable path)
  | some s =>
    match parse? s with
    | none => return .error (.invalid path)
    | some config => return .ok config

/-- Reads the file that is asked for, or the usual file if it is there. -/
def discover (wanted : Option Path) : m (Except ConfigError Config) := do
  match wanted with
  | some path => load path
  | none => if ← FileSystem.isFile usualPath then load usualPath else return .ok empty

end Requests

/-! ### Using a configuration -/

/-- The published versions, changed by the ones of the configuration. -/
def knownVersions (c : Config) : KnownVersions :=
  c.versions.foldl (fun known (api, versions) => known.put api versions) .standard

/-- The registry that a user chooses, or else the configured one, or else the usual one. -/
def registry (c : Config) (chosen : Option Path) : Path :=
  (chosen <|> c.registryPath).getD usualRegistry

end Config

/-- What a user chooses in place of a configuration's settings. -/
structure TargetChoice where
  registry : Option Path
  api : Option String
  version : Option String
  profile : Option String
  deriving Repr, DecidableEq, Inhabited

/-- A registry and what is wanted of it. -/
structure Target where
  registry : Path
  api : String
  /-- The version as written. -/
  version : String
  profile : Option String
  /-- The versions that may be selected. -/
  known : KnownVersions
  deriving Inhabited

/-- The target that a configuration and a user's choices describe. -/
def Config.target (c : Config) (choice : TargetChoice) : Except ConfigError Target :=
  match choice.version <|> c.version with
  | none => .error .noVersion
  | some version => .ok {
      registry := c.registry choice.registry
      api := (choice.api <|> c.api).getD usualApi
      version := version
      profile := choice.profile <|> c.profile
      known := c.knownVersions }

/-- The selection of a target. -/
def Target.selection (t : Target) : Except RegistryError Selection :=
  Selection.resolve t.known t.api t.version t.profile

end GLBindings
