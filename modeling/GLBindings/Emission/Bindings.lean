import GLBindings.Emission.Context
import GLBindings.Emission.Files
import GLBindings.Selection

namespace GLBindings

/-!
# Bindings — the files for a language

For C there are a header and a loader; for C++ a second header comes behind them.

* `Context.cHeader`, `Context.cLoader`, `Context.cppHeader` — the contents of the files.
* `Context.files` — the files of a language in order.
* `Context.preview` — the files as they would be written.
* `Context.writeAll` — writes the files until one fails.
-/

/-- The header that a user of the bindings includes. -/
def Language.header : Language → String
  | .c => "gl.h"
  | .cpp => "gl.hpp"

namespace Context

/-! ### Contents -/

/-- The pointers to the selected commands. -/
def pointers (c : Context) : Except RegistryError (List Pointer) := do
  return (← c.commands).map Pointer.ofCommand

/-- The header for C. -/
def cHeader (c : Context) : Except RegistryError CHeader := do
  return {
    stem := c.stem
    label := c.label
    types := (← c.types).map (·.definition)
    defines := (← c.constants).map Define.ofConstant
    pointers := ← c.pointers }

/-- The source that loads the commands. -/
def cLoader (c : Context) : Except RegistryError CLoader := do
  return ⟨c.stem, ← c.pointers⟩

/-- The header for C++, where the groups in use have enumerations. -/
def cppHeader (c : Context) : Except RegistryError CppHeader := do
  let groups ← c.groups
  let commands ← c.commands
  return {
    stem := c.stem
    label := c.label
    classes := groups.map EnumClass.ofGroup
    wrappers := commands.map (Wrapper.ofCommand (groups.map (·.name)).contains) }

/-! ### Files -/

/-- The files for C, which C++ needs too. -/
def cFiles (c : Context) : List (Except RegistryError GeneratedFile) :=
  [c.cHeader.map CHeader.file, c.cLoader.map CLoader.file]

/-- The files of a language in order. -/
def files (c : Context) : Language → List (Except RegistryError GeneratedFile)
  | .c => c.cFiles
  | .cpp => c.cFiles ++ [c.cppHeader.map CppHeader.file]

/-- The files of a language as they would be written. -/
def preview (c : Context) (language : Language) : Except RegistryError (List Preview) :=
  (c.files language).mapM (·.map Preview.of)

end Context

/-- Why bindings could not be written. -/
inductive BindingError where
  /-- The registry lacks something. -/
  | registry (cause : RegistryError)
  /-- A file could not be written. -/
  | write (cause : WriteError)
  deriving Repr, DecidableEq

section Requests

variable {m : Type → Type} [Monad m] [FileSystem m]

/-- Writes files one after the other until one fails. -/
def writeEach (base : Path) (log : WriteLog) :
    List (Except RegistryError GeneratedFile) → m (Except BindingError WriteLog)
  | [] => return .ok log
  | .error e :: _ => return .error (.registry e)
  | .ok f :: rest => do
    match ← log.write f base with
    | .error e => return .error (.write e)
    | .ok log => writeEach base log rest

/-- Writes the files of a language below a base directory. -/
def Context.writeAll (c : Context) (language : Language) (base : Path) :
    m (Except BindingError WriteLog) :=
  writeEach base .empty (c.files language)

end Requests

end GLBindings
