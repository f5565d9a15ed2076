import GLBindings.FileSystem

namespace GLBindings

/-!
# GeneratedFile — files that are made, and how they get written

A file with the right contents is not written again, so that nothing is rebuilt for it.

* `GeneratedFile` — where a file goes below a base directory, its rules and its text.
* `GeneratedFile.content` — the text with its banner.
* `GeneratedFile.write` — writes a file by its rules.
* `WriteLog` — which files were written and which were up to date.
* `Preview` — a file that is shown instead of written.
-/

/-- The first line of every generated file. -/
def banner : String := "/* Generated by glgen. DO NOT EDIT. */"

/-- When a file is written. -/
inductive Overwrite where
  /-- Whatever is there. -/
  | always
  /-- Only if something else is there. -/
  | ifChanged
  deriving Repr, DecidableEq

/-- How a file is written. -/
structure FileRules where
  overwrite : Overwrite
  /-- A line in front of the text. -/
  banner : Option String
  deriving Repr, DecidableEq

/-- A file that is made. -/
structure GeneratedFile where
  /-- The names that lead to it from the base directory. -/
  segments : List String
  rules : FileRules
  /-- What it holds behind its banner. -/
  text : String
  deriving Repr, DecidableEq

namespace GeneratedFile

/-- A file with the usual banner that is written when it changes. -/
def source (segments : List String) (text : String) : GeneratedFile :=
  ⟨segments, ⟨.ifChanged, some GLBindings.banner⟩, text⟩

/-- Where the file goes below a base directory. -/
def path (f : GeneratedFile) (base : Path) : Path :=
  base.joinAll f.segments

/-- The text with its banner. -/
def content (f : GeneratedFile) : String :=
  match f.rules.banner with
  | some line => line ++ "\n" ++ f.text
  | none => f.text

end GeneratedFile

/-! ### Writing -/

/-- What became of a file. -/
inductive WriteResult where
  /-- It was written. -/
  | written
  /-- It had the right contents. -/
  | unchanged
  deriving Repr, DecidableEq

/-- Why a file could not be written. -/
inductive WriteError where
  /-- The directory could not be made. -/
  | noDirectory (directory : Path)
  /-- The file could not be written. -/
  | noFile (path : Path)
  deriving Repr, DecidableEq

/-- The wording of a write error. -/
def WriteError.message : WriteError → String
  | .noDirectory directory => s!"failed to create '{directory}'"
  | .noFile path => s!"failed to write '{path}'"

section Requests

variable {m : Type → Type} [Monad m] [FileSystem m]

/-- Makes the directory that a path lies in. -/
def createParent (p : Path) : m (Except WriteError Unit) := do
  match p.parent? with
  | none => return .ok ()
  | some directory =>
    if ← FileSystem.createDirs directory then return .ok ()
    else return .error (.noDirectory directory)

/-- Writes a text to a path, in a directory that is made if need be. -/
def writeText (p : Path) (content : String) : m (Except WriteError WriteResult) := do
  match ← createParent p with
  | .error e => return .error e
  | .ok () =>
    if ← FileSystem.writeFile p content.toUTF8 then return .ok .written
    else return .error (.noFile p)

/-- Writes a file below a base directory by its rules. -/
def GeneratedFile.write (f : GeneratedFile) (base : Path) : m (Except WriteError WriteResult) := do
  match f.rules.overwrite with
  | .always => writeText (f.path base) f.content
  | .ifChanged =>
    if (← FileSystem.readText (f.path base)) = some f.content then return .ok .unchanged
    else writeText (f.path base) f.content

end Requests

/-! ### Logs and previews -/

/-- Which files were written and which were up to date. -/
structure WriteLog where
  written : List Path
  unchanged : List Path
  deriving Repr, DecidableEq, Inhabited

namespace WriteLog

/-- No files. -/
def empty : WriteLog := ⟨[], []⟩

/-- Adds what became of a file. -/
def add (log : WriteLog) (p : Path) : WriteResult → WriteLog
  | .written => { log with written := log.written ++ [p] }
  | .unchanged => { log with unchanged := log.unchanged ++ [p] }

/-- Writes a file and adds what became of it. -/
def write {m : Type → Type} [Monad m] [FileSystem m] (log : WriteLog) (f : GeneratedFile)
    (base : Path) : m (Except WriteError WriteLog) := do
  return (← f.write base).map (log.add (f.path base))

end WriteLog

/-- A file that is shown instead of written. -/
structure Preview where
  /-- Where it goes below the base directory. -/
  path : Path
  /-- Everything that it holds. -/
  content : String
  deriving Repr, DecidableEq

/-- The preview of a file. -/
def Preview.of (f : GeneratedFile) : Preview :=
  ⟨f.path "", f.content⟩

end GLBindings
