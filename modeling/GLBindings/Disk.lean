import GLBindings.FileSystem

namespace GLBindings

/-!
# Disk — a file system as a value

Directories and files are listed by their names from the root. There are no links, so `..` goes
back to the directory that was left.

* `Disk` — what stands where, and the working directory.
* `Disk.locate` — the names from the root that a path leads to.
* `Disk.read`, `Disk.createDirs`, `Disk.write` — the requests of `FileSystem`.
* `Disk.place`, `Disk.remove` — edits from outside the program.
* `Disk.files` — every file below the working directory.
-/

/-- The names that lead from the root to a file or directory. -/
abbrev Location := List String

/-- What stands at a location. -/
inductive Entry where
  | file (bytes : ByteArray)
  | directory

/-- A file system. -/
structure Disk where
  /-- The working directory. -/
  cwd : Location
  /-- What there is besides the root. -/
  entries : List (Location × Entry)

namespace Disk

/-- A disk with nothing but an empty working directory. -/
def empty : Disk := ⟨["work"], [(["work"], .directory)]⟩

instance : Inhabited Disk := ⟨empty⟩

/-! ### Locations -/

/-- What stands at a location. -/
def entry? (d : Disk) (loc : Location) : Option Entry :=
  if loc = [] then some .directory else d.entries.lookup loc

/-- Does a directory stand at a location? -/
def isDirectoryAt (d : Disk) (loc : Location) : Bool :=
  match d.entry? loc with
  | some .directory => true
  | _ => false

/-- Can a file have this name? -/
def isName (name : String) : Bool :=
  name.utf8ByteSize ≤ 255

/-- Follows the pieces of a path. All but the last step must start in a directory. -/
def walk (d : Disk) (loc : Location) : List String → Option Location
  | [] => some loc
  | piece :: pieces =>
    if d.isDirectoryAt loc then
      if piece = "" || piece = "." then walk d loc pieces
      else if piece = ".." then walk d loc.dropLast pieces
      else if isName piece then walk d (loc ++ [piece]) pieces
      else none
    else none

/-- Can the text be handed to a disk as a path? -/
def isPath (p : Path) : Bool :=
  p ≠ "" && p.utf8ByteSize < 4096 && !p.contains '\x00'

/-- Where a path begins. -/
def origin (d : Disk) (p : Path) : Location :=
  if Path.isAbsolute p.toList then [] else d.cwd

/-- Where a path leads; something may stand there or not. -/
def locate (d : Disk) (p : Path) : Option Location :=
  if isPath p then walk d (d.origin p) (Path.pieces p) else none

/-- Puts an entry at a location, in the place of one that stands there. -/
def set (d : Disk) (loc : Location) (e : Entry) : Disk :=
  if (d.entries.lookup loc).isSome then
    { d with entries := d.entries.map fun (l, old) => if l = loc then (l, e) else (l, old) }
  else
    { d with entries := d.entries ++ [(loc, e)] }

/-! ### Requests -/

/-- The bytes of a file. -/
def read (d : Disk) (p : Path) : Option ByteArray :=
  match (d.locate p).bind d.entry? with
  | some (.file bytes) => some bytes
  | _ => none

/-- Is there a file? -/
def isFile (d : Disk) (p : Path) : Bool :=
  (d.read p).isSome

/-- Follows pieces from a directory and makes the directories that are missing on the way. The ones
made before a failure stay. -/
def createAlong (d : Disk) (loc : Location) : List String → Bool × Disk
  | [] => (true, d)
  | piece :: pieces =>
    if piece = "" || piece = "." then createAlong d loc pieces
    else if piece = ".." then createAlong d loc.dropLast pieces
    else
      match d.entry? (loc ++ [piece]) with
      | some .directory => createAlong d (loc ++ [piece]) pieces
      | some (.file _) => (false, d)
      | none =>
        if isName piece then
          createAlong (d.set (loc ++ [piece]) .directory) (loc ++ [piece]) pieces
        else (false, d)

/-- Makes a directory and the missing ones above it. Nothing is made for a text that is no path;
the empty path means the working directory. -/
def createDirs (d : Disk) (p : Path) : Bool × Disk :=
  if p = "" then (true, d)
  else if isPath p then d.createAlong (d.origin p) (Path.pieces p)
  else (false, d)

/-- Makes or replaces a file; `none` if there is a directory, or none above it. -/
def write (d : Disk) (p : Path) (bytes : ByteArray) : Option Disk :=
  match d.locate p with
  | none => none
  | some loc => if d.isDirectoryAt loc then none else some (d.set loc (.file bytes))

/-- Puts a file and the directories above it on the disk, as far as that is possible. -/
def place (d : Disk) (p : Path) (bytes : ByteArray) : Disk :=
  let made := match Path.parent? p with
    | some above => (d.createDirs above).2
    | none => d
  (made.write p bytes).getD made

/-- Takes a file away, if there is one. -/
def remove (d : Disk) (p : Path) : Disk :=
  match d.locate p with
  | some loc =>
    if d.isDirectoryAt loc then d
    else { d with entries := d.entries.filter fun (l, _) => l ≠ loc }
  | none => d

instance : FileSystem (StateM Disk) where
  readFile p := do return (← get).read p
  isFile p := do return (← get).isFile p
  createDirs p := modifyGet fun d => d.createDirs p
  writeFile p bytes := modifyGet fun d =>
    match d.write p bytes with
    | some d' => (true, d')
    | none => (false, d)

/-! ### Contents -/

/-- The file at a location below the working directory, with its relative path. -/
def fileBelow? (d : Disk) : Location × Entry → Option (Path × ByteArray)
  | (loc, .file bytes) =>
    if d.cwd.isPrefixOf loc then some ("/".intercalate (loc.drop d.cwd.length), bytes) else none
  | (_, .directory) => none

/-- Every file below the working directory, in the order of the relative paths. -/
def files (d : Disk) : List (Path × ByteArray) :=
  (d.entries.filterMap d.fileBelow?).mergeSort fun a b => a.1 ≤ b.1

end Disk

end GLBindings
