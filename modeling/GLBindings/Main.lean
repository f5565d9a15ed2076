import GLBindings.CommandLine.Run

/-!
# Main — the program

Only this module touches the files of the computer.
-/

namespace GLBindings

/-- Does what can fail, and says whether it succeeded. -/
def succeeds (action : IO Unit) : IO Bool := do
  try
    action
    return true
  catch _ => return false

instance : FileSystem IO where
  readFile p := do
    try
      return some (← IO.FS.readBinFile p)
    catch _ => return none
  isFile p := do
    try
      let found ← IO.FS.realPath p
      return (← found.metadata).type == .file
    catch _ => return false
  createDirs p := succeeds (IO.FS.createDirAll p)
  writeFile p bytes := succeeds (IO.FS.writeBinFile p bytes)

end GLBindings

/-- Runs the program on the arguments of the command line. -/
def main (args : List String) : IO UInt32 := do
  let outcome : GLBindings.CommandLine.Outcome ← GLBindings.CommandLine.run args
  IO.print outcome.output
  IO.eprint outcome.complaint
  return UInt32.ofNat outcome.exitCode
