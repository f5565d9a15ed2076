import GLBindings.Text.Blank

namespace GLBindings

/-!
# FileSystem — paths, and what the program asks of files

A path is kept as it was written, so it prints back unchanged; only its pieces between slashes
have a meaning. Everything that touches files is written against four requests, so the same
definitions run on the disk of a computer and on a value of type `Disk`.

* `Path.join` — a path below another one; an absolute right side replaces the left.
* `Path.parent?` — the path without its last component.
* `Path.pieces` — what stands between the slashes.
* `FileSystem` — the requests.
-/

/-- A path as written. -/
abbrev Path := String

namespace Path

/-- Does the path start at the root? -/
def isAbsolute (p : List Char) : Bool :=
  p.head? == some '/'

/-- The path `child` below `base`, as characters. -/
def joinChars (base child : List Char) : List Char :=
  if isAbsolute child then child
  else if base = [] || base.getLast? == some '/' then base ++ child
  else base ++ '/' :: child

/-- The path `child` below `base`. -/
def join (base child : Path) : Path :=
  String.ofList (joinChars base.toList child.toList)

/-- The path that `segments` lead to, one below the other, from `base`. -/
def joinAll (base : Path) (segments : List String) : Path :=
  segments.foldl join base

/-- The texts between the slashes, empty ones included. -/
def pieces (p : Path) : List String :=
  (Text.splitAt (· == '/') p.toList).map String.ofList

/-! ### Parents -/

/-- Does the path begin with the component `.`? That one is kept; a later one means nothing. -/
def hasLeadingDot : List Char → Bool
  | ['.'] => true
  | '.' :: '/' :: _ => true
  | _ => false

/-- The part of a path that stays in front of all components: the root or a leading dot. -/
def anchor (p : List Char) : List Char :=
  if isAbsolute p then ['/'] else if hasLeadingDot p then ['.'] else []

/-- Does the piece between two slashes name nothing? -/
def isSkipped (piece : List Char) : Bool :=
  piece = [] || piece = ['.']

/-- The reversed path without a last piece: everything up to its slash goes. -/
def dropPiece (reversed : List Char) : List Char :=
  (reversed.dropWhile (· ≠ '/')).drop 1

/-- The reversed path without pieces at its end that name nothing. -/
def dropSkipped (reversed : List Char) : List Char :=
  match _h : reversed with
  | [] => []
  | c :: cs =>
    if isSkipped ((c :: cs).takeWhile (· ≠ '/')) then dropSkipped (dropPiece (c :: cs)) else c :: cs
termination_by reversed.length
decreasing_by
  simp only [dropPiece, List.length_drop, List.length_cons]
  have := (List.dropWhile_sublist (l := c :: cs) (fun c => decide (c ≠ '/'))).length_le
  simp only [List.length_cons] at this
  omega

/-- The path without its last component, if it has one. -/
def parent? (p : Path) : Option Path :=
  let front := anchor p.toList
  let body := dropSkipped (p.toList.drop front.length).reverse
  match body with
  | [] => if front = ['.'] then some "" else none
  | _ => some (String.ofList (front ++ (dropSkipped (dropPiece body)).reverse))

end Path

/-! ### Requests -/

/-- The requests to the files that a computation in `m` works on. A request that fails says so in
its answer; the reason is not told. -/
class FileSystem (m : Type → Type) where
  /-- The bytes of a file; `none` if there is no readable file. -/
  readFile : Path → m (Option ByteArray)
  /-- Is there a file, not a directory? -/
  isFile : Path → m Bool
  /-- Makes a directory and the missing ones above it. Says whether it is there afterwards. -/
  createDirs : Path → m Bool
  /-- Makes or replaces a file in a directory that is there. -/
  writeFile : Path → ByteArray → m Bool

namespace FileSystem

variable {m : Type → Type} [Monad m] [FileSystem m]

/-- The text of a file; `none` also if its bytes are not UTF-8. -/
def readText (p : Path) : m (Option String) := do
  return (← readFile p).bind String.fromUTF8?

end FileSystem

end GLBindings
