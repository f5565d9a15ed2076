import GLBindings.CommandLine.Arguments
import GLBindings.Registry.Reader
import GLBindings.Report

namespace GLBindings

/-!
# CommandLine — runs of the program

* `Registry.load` — reads a registry from a file.
* `CommandLine.Failure` — why a run fails.
* `CommandLine.run` — what a run with given arguments shows, and its exit code.
-/

section Requests

variable {m : Type → Type} [Monad m] [FileSystem m]

/-- Reads a registry from a file. -/
def Registry.load (path : Path) : m (Except RegistryError Registry) := do
  match ← FileSystem.readText path with
  | none => return .error (.unreadable path)
  | some text => return Registry.parse path text

end Requests

namespace CommandLine

/-- Why a run fails. -/
inductive Failure where
  | config (cause : ConfigError)
  | registry (cause : RegistryError)
  | generation (cause : GenerationError)
  deriving Repr, DecidableEq

/-- The wording of a failure. -/
def Failure.message : Failure → String
  | config cause => cause.message
  | registry cause => cause.message
  | generation cause => cause.message

/-- What a run leaves behind. -/
structure Outcome where
  exitCode : Nat
  /-- What is shown. -/
  output : String
  /-- What is shown of a failure. -/
  complaint : String
  deriving Repr, DecidableEq

/-- The version of the program. -/
def programVersion : String := "glgen 0.1.0"

/-- How the program is called. -/
def usage : String :=
  "usage: glgen [-v] [--version] [--help] generate|check|info|completions [options]"

section Requests

variable {m : Type → Type} [Monad m] [FileSystem m]

/-- The context of a target. -/
def contextOf (target : Target) : m (Except RegistryError Context) := do
  match ← Registry.load target.registry with
  | .error e => return .error e
  | .ok registry =>
    return do Context.ofSelection (Catalog.ofRegistry registry) (← target.selection)

/-- The configuration of a run and the context of its target. -/
def prepare (config : Option Path) (choice : TargetChoice) :
    m (Except Failure (Config × Context)) := do
  match ← Config.discover config with
  | .error e => return .error (.config e)
  | .ok config =>
    match config.target choice with
    | .error e => return .error (.config e)
    | .ok target =>
      match ← contextOf target with
      | .error e => return .error (.registry e)
      | .ok context => return .ok (config, context)

/-- Makes bindings. What the arguments leave open is taken from the configuration. -/
def runGenerate (config : Option Path) (choice : TargetChoice) (language : Option Language)
    (output : Option Path) (stem : Option Stem) (dryRun : Bool) :
    m (Except Failure (List Event)) := do
  match ← prepare config choice with
  | .error e => return .error e
  | .ok (config, context) =>
    let context := context.withStem ((stem <|> config.stem).getD Stem.default)
    let language := (language <|> config.language).getD .c
    let output := (output <|> config.outputDir).getD Config.usualOutputDir
    match ← context.generate language output dryRun with
    | .error e => return .error (.generation e)
    | .ok report => return .ok report.events

/-- Checks a target. -/
def runCheck (config : Option Path) (choice : TargetChoice) :
    m (Except Failure (List Event)) := do
  match ← prepare config choice with
  | .error e => return .error e
  | .ok (_, context) =>
    match context.check with
    | .error e => return .error (.registry e)
    | .ok report => return .ok report.events

/-- Shows what a registry holds. -/
def runInfo (config registry : Option Path) : m (Except Failure (List Event)) := do
  match ← Config.discover config with
  | .error e => return .error (.config e)
  | .ok config =>
    let path := config.registry registry
    match ← Registry.load path with
    | .error e => return .error (.registry e)
    | .ok registry => return .ok ((Catalog.ofRegistry registry).overview path).events

/-- Does what is asked for. Completions are left to the shells. -/
def perform : Request → m (Except Failure (List Event))
  | .generate config choice language output stem dryRun =>
    runGenerate config choice language output stem dryRun
  | .check config choice => runCheck config choice
  | .info config registry => runInfo config registry
  | .completions _ => return .ok []
  | .programVersion => return .ok [.verbatim programVersion]
  | .help => return .ok [.verbatim usage]

/-- A run with given arguments: exit code 0 for success, 1 for a failure, and 2 for wrong
arguments, in which case nothing else is done. -/
def run (args : List String) : m Outcome := do
  match parse? args with
  | none => return ⟨2, "", usage ++ "\n"⟩
  | some request =>
    match ← perform request with
    | .error e => return ⟨1, "", s!"error: {e.message}\n"⟩
    | .ok events => return ⟨0, Event.terminalText events, ""⟩

end Requests

end CommandLine

end GLBindings
