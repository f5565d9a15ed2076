import GLBindings.Emission.Bindings

namespace GLBindings

/-!
# Report — what a user is told

A report says what is to be shown; only `Event.line` knows how it looks on a terminal.

* `Event` — a part of a report.
* `Catalog.overview` — what a registry holds.
* `Context.check` — looks up everything that bindings would need.
* `Context.generate` — writes bindings, or shows them when nothing is to be written.
-/

/-- A part of a report. -/
inductive Event where
  /-- The heading of a list. -/
  | heading (name : String)
  /-- A value with its name. -/
  | pair (key value : String)
  /-- An item of a list. -/
  | item (text : String)
  /-- A file that has been written. -/
  | addition (text : String)
  /-- A separator with a label. -/
  | divider (label : String)
  /-- A text that is shown as it is. -/
  | verbatim (text : String)
  | emptyLine
  deriving Repr, DecidableEq

namespace Event

/-- A part as it stands on a terminal, without the end of its line. -/
def line : Event → String
  | heading name => s!"{name}:"
  | pair key value => s!"{key}: {value}"
  | item text => s!"  - {text}"
  | addition text => s!"  + {text}"
  | divider label => s!"── {label} ──"
  | verbatim text => text
  | emptyLine => ""

/-- A report as it stands on a terminal. -/
def terminalText (events : List Event) : String :=
  String.join (events.map fun e => e.line ++ "\n")

end Event

/-! ### What a registry holds -/

/-- What a registry holds. -/
structure Overview where
  /-- The file of the registry. -/
  path : Path
  types : Nat
  constants : Nat
  commands : Nat
  /-- The apis with their versions. -/
  apis : List (String × List Version)
  /-- The classes of objects with the names of their commands. -/
  classes : List (String × List String)

/-- The overview of a registry. -/
def Catalog.overview (c : Catalog) (path : Path) : Overview where
  path := path
  types := c.registry.types.length
  constants := c.registry.constants.length
  commands := c.registry.commands.length
  apis := c.apis.map fun api => (api, (c.featuresOf api).map (·.number))
  classes := c.classNames.map fun name =>
    (Naming.pascalCase name, (c.commandsOfClass name).map (·.name))

namespace Overview

/-- An api with its versions. -/
def apiItem (api : String) (versions : List Version) : Event :=
  let list := ", ".intercalate (versions.map toString)
  .item s!"{api} ({list})"

/-- A class with the number of its commands. -/
def classItem (name : String) (count : Nat) : Event :=
  let ending := if count = 1 then "" else "s"
  .item s!"{name} ({count} command{ending})"

/-- The report. -/
def events (o : Overview) : List Event :=
  [.pair "Registry" o.path,
    .pair "Types" (toString o.types),
    .pair "Constants" (toString o.constants),
    .pair "Commands" (toString o.commands),
    .emptyLine,
    .heading "Apis"]
    ++ o.apis.map (fun (api, versions) => apiItem api versions)
    ++ if o.classes.isEmpty then []
      else [.emptyLine, .heading "Classes"]
        ++ o.classes.map fun (name, commands) => classItem name commands.length

end Overview

/-! ### Everything that bindings would need is there -/

/-- The size of a selection. -/
structure CheckReport where
  /-- The selection in words. -/
  label : String
  commands : Nat
  constants : Nat
  types : Nat
  groups : Nat
  deriving Repr, DecidableEq

/-- Looks up everything that bindings would need, and counts it. -/
def Context.check (c : Context) : Except RegistryError CheckReport := do
  return {
    label := c.label
    commands := (← c.commands).length
    constants := (← c.constants).length
    types := (← c.types).length
    groups := (← c.groups).length }

/-- The report. -/
def CheckReport.events (r : CheckReport) : List Event := [
  .verbatim s!"✓ {r.label} consolidates cleanly",
  .emptyLine,
  .pair "  Commands" (toString r.commands),
  .pair "  Constants" (toString r.constants),
  .pair "  Types" (toString r.types),
  .pair "  Groups" (toString r.groups)]

/-! ### Bindings that were written or shown -/

/-- What became of the bindings. -/
inductive Generation where
  /-- They are in files. -/
  | written (log : WriteLog)
  /-- They were only made up. -/
  | shown (files : List Preview)
  deriving Repr, DecidableEq

/-- What was made for whom. -/
structure GenerationReport where
  /-- The selection in words. -/
  label : String
  language : Language
  /-- What a user of the bindings includes. -/
  includeName : String
  outputDir : Path
  result : Generation
  deriving Repr, DecidableEq

/-- Why bindings could not be made. -/
inductive GenerationError where
  /-- They could not be made up. -/
  | rendering (cause : RegistryError)
  /-- They could not be written below the directory. -/
  | writing (directory : Path) (cause : BindingError)
  deriving Repr, DecidableEq

namespace GenerationError

/-- The wording of a failure, without its cause. -/
def message : GenerationError → String
  | rendering _ => "Failed to render bindings"
  | writing directory _ => s!"Failed to write bindings to {directory}"

end GenerationError

/-- The report on a context's bindings. -/
def Context.generationReport (c : Context) (language : Language) (outputDir : Path)
    (result : Generation) : GenerationReport where
  label := c.label
  language := language
  includeName := Stem.includeName c.stem language.header
  outputDir := outputDir
  result := result

/-- Writes bindings below a directory; a dry run only shows them. -/
def Context.generate {m : Type → Type} [Monad m] [FileSystem m] (c : Context)
    (language : Language) (outputDir : Path) (dryRun : Bool) :
    m (Except GenerationError GenerationReport) := do
  if dryRun then
    match c.preview language with
    | .error e => return .error (.rendering e)
    | .ok files => return .ok (c.generationReport language outputDir (.shown files))
  else
    match ← c.writeAll language outputDir with
    | .error e => return .error (.writing outputDir e)
    | .ok log => return .ok (c.generationReport language outputDir (.written log))

namespace GenerationReport

/-- A list under a heading, unless it is empty. -/
def listing (name : String) (items : List Event) : List Event :=
  if items.isEmpty then [] else .heading name :: items

/-- The report on written files. -/
def writtenEvents (r : GenerationReport) (log : WriteLog) : List Event :=
  [.verbatim s!"{r.language} bindings for {r.label}", .emptyLine]
    ++ listing "Written" (log.written.map .addition)
    ++ listing "Unchanged" (log.unchanged.map .item)
    ++ [.emptyLine,
      .pair "Include" s!"<{r.includeName}>",
      .pair "Include path" (Path.join r.outputDir "include")]

/-- The report on files that were only made up. -/
def shownEvents (files : List Preview) : List Event :=
  files.flatMap (fun f => [.divider f.path, .verbatim f.content])
    ++ [.divider "Summary", .verbatim s!"{files.length} files would be generated"]

/-- The report. -/
def events (r : GenerationReport) : List Event :=
  match r.result with
  | .written log => r.writtenEvents log
  | .shown files => shownEvents files

end GenerationReport

end GLBindings
