import GLBindings.Disk
import Mathlib.Data.List.Basic

namespace GLBindings.Disk

/-!
# Disk — what requests leave as it was

Nothing that the program asks for takes a directory away, so a path that leads somewhere keeps
leading there.

* `fileAt`, `read_eq` — files by location and by path.
* `Grows` — the directories of one disk are also on the other; `Grows.locate` is what this means
  for paths.
* `OnlyDirectories`, `onlyDirectories_createDirs` — making directories adds nothing else.
* `write_spec` — writing changes one file.
* `getLast?_locate` — a path that ends in a name leads to a location that ends in it.
-/

variable {d d' : Disk} {p : Path} {loc : Location}

/-! ### Files by location -/

/-- The bytes of the file at a location. -/
def fileAt (d : Disk) (loc : Location) : Option ByteArray :=
  match d.entry? loc with
  | some (.file bytes) => some bytes
  | _ => none

/-- Reading a path is reading where it leads. -/
theorem read_eq (d : Disk) (p : Path) : d.read p = (d.locate p).bind d.fileAt := by
  rw [read]
  cases d.locate p <;> rfl

/-- Where a path leads somewhere, the file there is read. -/
theorem read_of_locate (h : d.locate p = some loc) : d.read p = d.fileAt loc := by
  rw [read_eq, h, Option.bind_some]

/-- A location is a directory when the disk has an entry that says so. -/
theorem isDirectoryAt_iff : d.isDirectoryAt loc = true ↔ d.entry? loc = some .directory := by
  rw [isDirectoryAt]
  cases d.entry? loc with
  | none => simp
  | some e => cases e <;> simp

/-! ### Following pieces -/

/-- Where one piece leads from a directory. -/
def follow (loc : Location) (piece : String) : Option Location :=
  if piece = "" || piece = "." then some loc
  else if piece = ".." then some loc.dropLast
  else if isName piece then some (loc ++ [piece])
  else none

/-- A walk takes one step, which is only possible from a directory, and goes on. -/
theorem walk_cons (d : Disk) (loc : Location) (piece : String) (pieces : List String) :
    d.walk loc (piece :: pieces)
      = if d.isDirectoryAt loc then (follow loc piece).bind fun next => d.walk next pieces
        else none := by
  rw [walk, follow]
  split
  · split
    · rfl
    · split
      · rfl
      · split <;> rfl
  · rfl

/-- A relative path is followed from the working directory. -/
theorem locate_of_pieces (pieces : List String) (hpath : isPath p = true)
    (hrelative : Path.isAbsolute p.toList = false) (hpieces : p.pieces = pieces) :
    d.locate p = d.walk d.cwd pieces := by
  rw [locate, if_pos hpath, hpieces, origin, hrelative]
  rfl

/-- A piece that names something, other than the directory it is in or the one above. -/
def IsProper (piece : String) : Prop :=
  piece ≠ "" ∧ piece ≠ "." ∧ piece ≠ ".."

/-- A walk whose last piece is the name of an entry ends at an entry of that name. -/
theorem getLast?_walk {pieces : List String} {name : String} (hname : IsProper name)
    (hlast : pieces.getLast? = some name) {start : Location}
    (h : d.walk start pieces = some loc) : loc.getLast? = some name := by
  -- on the pieces, from whatever directory they are followed
  induction pieces generalizing start with
  | nil => cases hlast
  | cons piece pieces ih =>
    rw [walk_cons] at h
    split at h
    · obtain ⟨next, hnext, hrest⟩ := Option.bind_eq_some_iff.mp h
      cases pieces with
      | nil =>
        -- the last step goes to the name itself
        obtain rfl : piece = name := by simpa using hlast
        obtain rfl : next = loc := by simpa [walk] using hrest
        obtain ⟨hempty, hdot, hup⟩ := hname
        rw [follow, if_neg (by simp [hempty, hdot]), if_neg hup] at hnext
        split at hnext
        · obtain rfl := Option.some.inj hnext
          simp
        · cases hnext
      | cons second rest => exact ih (by simpa using hlast) hrest
    · cases h

/-- **Names at the end.**  A path that ends in a name leads to a location that ends in it. -/
theorem getLast?_locate {name : String} (hname : IsProper name)
    (hlast : p.pieces.getLast? = some name) (h : d.locate p = some loc) :
    loc.getLast? = some name := by
  rw [locate] at h
  split at h
  · exact getLast?_walk hname hlast h
  · cases h

/-! ### Growing -/

/-- The working directory is the same, and every directory is still there. -/
structure Grows (d d' : Disk) : Prop where
  cwd : d'.cwd = d.cwd
  directory : ∀ loc, d.isDirectoryAt loc = true → d'.isDirectoryAt loc = true

namespace Grows

theorem refl (d : Disk) : Grows d d := ⟨rfl, fun _ h => h⟩

theorem trans {d'' : Disk} (h : Grows d d') (h' : Grows d' d'') : Grows d d'' :=
  ⟨h'.cwd.trans h.cwd, fun loc hloc => h'.directory loc (h.directory loc hloc)⟩

/-- Pieces that can be followed lead to the same place when there are more directories. -/
theorem walk (h : Grows d d') {start : Location} {pieces : List String}
    (hwalk : d.walk start pieces = some loc) : d'.walk start pieces = some loc := by
  induction pieces generalizing start with
  | nil => exact hwalk
  | cons piece pieces ih =>
    rw [walk_cons] at hwalk ⊢
    split at hwalk
    · rename_i hdir
      obtain ⟨next, hnext, hrest⟩ := Option.bind_eq_some_iff.mp hwalk
      -- the same step is possible, and it leads to the same place
      rw [if_pos (h.directory start hdir), hnext]
      exact ih hrest
    · cases hwalk

/-- **Paths keep leading where they led.** -/
theorem locate (h : Grows d d') (hloc : d.locate p = some loc) : d'.locate p = some loc := by
  have horigin : d'.origin p = d.origin p := by rw [origin, origin, h.cwd]
  rw [Disk.locate] at hloc ⊢
  split at hloc
  · rename_i hpath
    rw [if_pos hpath, horigin]
    exact h.walk hloc
  · cases hloc

end Grows

/-! ### Setting an entry -/

/-- Changing the entry at one location of a list changes the look-up there and nowhere else. -/
theorem lookup_map_set (entries : List (Location × Entry)) (loc other : Location) (e : Entry) :
    (entries.map fun (l, old) => if l = loc then (l, e) else (l, old)).lookup other
      = if other = loc then (entries.lookup other).map fun _ => e else entries.lookup other := by
  induction entries with
  | nil => simp
  | cons head entries ih =>
    obtain ⟨l, old⟩ := head
    -- the change keeps the keys, so the first entry decides in both lists or in none
    have hkey : (if l = loc then (l, e) else (l, old)) = (l, if l = loc then e else old) := by
      by_cases hl : l = loc <;> simp [hl]
    show ((if l = loc then (l, e) else (l, old)) :: entries.map _).lookup other = _
    rw [hkey, List.lookup_cons, List.lookup_cons, ih]
    by_cases ho : other = l
    · subst ho
      by_cases hl : other = loc <;> simp [hl]
    · rw [beq_eq_false_iff_ne.mpr ho]

/-- An entry is set at its location and nowhere else. -/
theorem entry?_set (hne : loc ≠ []) (e : Entry) (other : Location) :
    Disk.entry? (d.set loc e) other = if other = loc then some e else d.entry? other := by
  by_cases hroot : other = []
  · -- the root is a directory without an entry
    subst hroot
    rw [if_neg (Ne.symm hne)]
    rfl
  unfold entry?
  rw [if_neg hroot, if_neg hroot, set]
  split
  · rename_i hsome
    -- an entry that was there is changed in its place
    rw [lookup_map_set]
    by_cases h : other = loc
    · obtain ⟨old, hold⟩ := Option.isSome_iff_exists.mp hsome
      rw [if_pos h, if_pos h, h, hold, Option.map_some]
    · rw [if_neg h, if_neg h]
  · rename_i hnone
    rw [Option.not_isSome_iff_eq_none] at hnone
    -- a new entry stands behind the others
    rw [List.lookup_append]
    by_cases h : other = loc
    · simp [h, hnone]
    · have hbeq : (other == loc) = false := by simpa using h
      simp [h, hbeq, List.lookup_cons]

/-- Setting an entry does not move the working directory. -/
theorem cwd_set (d : Disk) (loc : Location) (e : Entry) : (d.set loc e).cwd = d.cwd := by
  rw [set]
  split <;> rfl

/-! ### Making directories -/

/-- Directories were added where nothing was, and nothing else changed. -/
structure OnlyDirectories (d d' : Disk) : Prop where
  cwd : d'.cwd = d.cwd
  entry : ∀ loc, d'.entry? loc = d.entry? loc
    ∨ d.entry? loc = none ∧ d'.entry? loc = some .directory

namespace OnlyDirectories

theorem refl (d : Disk) : OnlyDirectories d d := ⟨rfl, fun _ => .inl rfl⟩

theorem trans {d'' : Disk} (h : OnlyDirectories d d') (h' : OnlyDirectories d' d'') :
    OnlyDirectories d d'' := by
  refine ⟨h'.cwd.trans h.cwd, fun loc => ?_⟩
  -- at most one of the two steps has added something at the location
  rcases h'.entry loc with he' | ⟨hnone, hdir⟩
  · rw [he']
    exact h.entry loc
  · rcases h.entry loc with he | ⟨hnone', -⟩
    · exact .inr ⟨he ▸ hnone, hdir⟩
    · exact .inr ⟨hnone', hdir⟩

/-- Directories that are added do not take anything away. -/
theorem grows (h : OnlyDirectories d d') : Grows d d' := by
  refine ⟨h.cwd, fun loc hdir => ?_⟩
  rw [isDirectoryAt_iff] at hdir ⊢
  rcases h.entry loc with he | ⟨hnone, -⟩
  · rw [he, hdir]
  · rw [hdir] at hnone
    cases hnone

/-- And they leave all files as they are. -/
theorem fileAt (h : OnlyDirectories d d') (loc : Location) : d'.fileAt loc = d.fileAt loc := by
  rw [Disk.fileAt, Disk.fileAt]
  rcases h.entry loc with he | ⟨hnone, hdir⟩
  · rw [he]
  · rw [hnone, hdir]

end OnlyDirectories

/-- A directory can be added where nothing was. -/
theorem onlyDirectories_set (hne : loc ≠ []) (hnone : d.entry? loc = none) :
    OnlyDirectories d (d.set loc .directory) := by
  refine ⟨cwd_set d loc _, fun other => ?_⟩
  rw [entry?_set hne]
  by_cases h : other = loc
  · rw [if_pos h, h]
    exact .inr ⟨hnone, rfl⟩
  · rw [if_neg h]
    exact .inl rfl

/-- **Making directories** adds directories and nothing else, even when it fails on the way. -/
theorem onlyDirectories_createAlong (d : Disk) (loc : Location) (pieces : List String) :
    OnlyDirectories d (d.createAlong loc pieces).2 := by
  induction pieces generalizing d loc with
  | nil => exact .refl d
  | cons piece pieces ih =>
    rw [createAlong]
    -- only the last of the cases makes a directory, where nothing was
    split
    · exact ih d loc
    · split
      · exact ih d loc.dropLast
      · split
        · exact ih d (loc ++ [piece])
        · exact .refl d
        · rename_i hnone
          split
          · exact (onlyDirectories_set (by simp) hnone).trans (ih _ _)
          · exact .refl d

/-- A relative path is made from the working directory, piece by piece. -/
theorem createDirs_of_pieces (pieces : List String) (hne : p ≠ "") (hpath : isPath p = true)
    (hrelative : Path.isAbsolute p.toList = false) (hpieces : p.pieces = pieces) :
    d.createDirs p = d.createAlong d.cwd pieces := by
  rw [createDirs, if_neg hne, if_pos hpath, hpieces, origin, hrelative]
  rfl

/-- **Making directories makes nothing else**, also when it fails half-way. -/
theorem onlyDirectories_createDirs (d : Disk) (p : Path) : OnlyDirectories d (d.createDirs p).2 := by
  rw [createDirs]
  split
  · exact .refl d
  · split
    · exact onlyDirectories_createAlong d _ _
    · exact .refl d

/-! ### Writing a file -/

/-- **Writing changes one file.**  Its path leads to it, and holds the bytes afterwards. -/
theorem write_spec {bytes : ByteArray} (h : d.write p bytes = some d') :
    ∃ loc, d.locate p = some loc ∧ Grows d d' ∧ d'.fileAt loc = some bytes
      ∧ ∀ other, other ≠ loc → d'.fileAt other = d.fileAt other := by
  rw [write] at h
  split at h
  · cases h
  · rename_i loc hloc
    split at h
    · cases h
    · rename_i hdir
      -- only this case writes: the path leads somewhere, and not to a directory
      obtain rfl := Option.some.inj h
      have hne : loc ≠ [] := by
        rintro rfl
        exact hdir rfl
      refine ⟨loc, hloc, ⟨cwd_set d loc _, fun other hother => ?_⟩, ?_, fun other hother => ?_⟩
      · -- no directory stands where the file is put
        have hdiff : other ≠ loc := fun e => hdir (e ▸ hother)
        rw [isDirectoryAt_iff] at hother ⊢
        rw [entry?_set hne, if_neg hdiff, hother]
      · rw [fileAt, entry?_set hne, if_pos rfl]
      · rw [fileAt, fileAt, entry?_set hne, if_neg hother]

end GLBindings.Disk
