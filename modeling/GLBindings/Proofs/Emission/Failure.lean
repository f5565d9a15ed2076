import GLBindings.Proofs.Emission.Regeneration
import GLBindings.Proofs.Emission.Rendering

namespace GLBindings

open Catalog

/-!
# Failure — bindings that cannot be made leave no trace

Files are made and written by turns, so a file is on the disk before the next one is made.  Still
no half of the bindings is ever left behind for want of a declaration, because the first file
already needs every declaration that any of them needs.

* `writeEach_of_error` — a run that starts with a file which cannot be made asks nothing of the
  file system.
* `writeEach_error_of_made` — a run over files that can be made only fails where one is written.
* `writeAll_failure` — both for the files of a context.
-/

variable {c : Context} {base : Path}

/-! ### Runs that fail -/

/-- A run that starts with a file which cannot be made makes no request at all. -/
theorem writeEach_of_error {m : Type → Type} [Monad m] [FileSystem m] (log : WriteLog)
    (e : RegistryError) (later : List (Except RegistryError GeneratedFile)) :
    (writeEach base log (.error e :: later) : m _) = pure (.error (.registry e)) := by
  rw [writeEach]

/-- A run over files that can be made only fails where one of them is written. -/
theorem writeEach_error_of_made {xs : List (Except RegistryError GeneratedFile)}
    (hxs : ∃ fs : List GeneratedFile, xs = fs.map .ok) {log : WriteLog} {d d' : Disk}
    {e : BindingError} (h : (writeEach base log xs : StateM Disk _).run d = (.error e, d')) :
    ∃ cause, e = .write cause := by
  obtain ⟨fs, rfl⟩ := hxs
  rcases writeEach_ok_or_error base log fs d with ⟨log', d'', hrun⟩ | ⟨cause, d'', hrun⟩
  · rw [hrun] at h
    cases h
  · rw [hrun] at h
    cases h
    exact ⟨cause, rfl⟩

/-! ### Bindings -/

/-- **All or nothing, as far as declarations go.**  When writing bindings fails because a name is
not declared, the disk is as it was; in fact nothing was asked of the file system.  Once a first
file could be made, so can all later ones.  From then on, whatever was written and whatever the disk
has become, only writing can fail. -/
theorem writeAll_failure (r : Registry) (selection : Selection) (names : NameSelection)
    (stem : Stem) (language : Language) (base : Path) :
    let c : Context := ⟨ofRegistry r, selection, names, stem⟩
    (∀ d e d', (c.writeAll language base : StateM Disk _).run d = (.error (.registry e), d') →
        d' = d ∧ r.Lacks names e)
      ∧ (¬ r.DeclaresAll names → ∃ e, r.Lacks names e
        ∧ ∀ (m : Type → Type) [Monad m] [FileSystem m],
          (c.writeAll language base : m _) = pure (.error (.registry e)))
      ∧ ∀ first later, c.files language = .ok first :: later →
        (∀ x ∈ later, ∃ f, x = .ok f)
          ∧ ∀ count log d e d',
            (writeEach base log (later.drop count) : StateM Disk _).run d = (.error e, d') →
              ∃ cause, e = .write cause := by
  intro c
  rcases files_spec (c := c) rfl language with ⟨hall, fs, hfiles⟩ | ⟨e, later, hlacks, -, hfiles⟩
  · -- every file can be made, so no part of the run has another reason to fail than a write
    refine ⟨?_, fun hnot => absurd hall hnot, ?_⟩
    · intro d e d' h
      rw [Context.writeAll, hfiles] at h
      obtain ⟨cause, hcause⟩ := writeEach_error_of_made ⟨fs, rfl⟩ h
      cases hcause
    · intro first later hsplit
      have hlater : later = fs.tail.map .ok := by
        rw [List.map_tail, ← hfiles, hsplit, List.tail_cons]
      rw [hlater]
      constructor
      · intro x hx
        obtain ⟨f, -, rfl⟩ := List.mem_map.mp hx
        exact ⟨f, rfl⟩
      · intro count log d e d' h
        exact writeEach_error_of_made ⟨fs.tail.drop count, List.map_drop.symm⟩ h
  · -- the run is over before its first request
    have hrun : ∀ (m : Type → Type) [Monad m] [FileSystem m],
        (c.writeAll language base : m _) = pure (.error (.registry e)) := by
      intro m _ _
      rw [Context.writeAll, hfiles, writeEach_of_error]
    refine ⟨?_, fun _ => ⟨e, hlacks, hrun⟩, ?_⟩
    · intro d e' d' h
      rw [hrun (StateM Disk)] at h
      cases h
      exact ⟨rfl, hlacks⟩
    · intro first later' hsplit
      rw [hfiles] at hsplit
      cases hsplit

/-- A disk where a file has the name of the loader's directory. -/
def blocked : Disk where
  cwd := ["work"]
  entries := [(["work"], .directory), (["work", "src"], .file .empty)]

/-- The loader for nothing cannot be written there. -/
theorem run_blocked (text : String) (log : WriteLog) :
    (writeEach "" log [.ok (blankLoader text)] : StateM Disk _).run blocked
      = (.error (.write (.noDirectory "src")), blocked) := by
  have hpath : (blankLoader text).path "" = "src/gl.c" := by cbv
  -- the file with the name of the directory cannot be walked through
  have hlocate : blocked.locate "src/gl.c" = none :=
    Disk.locate_of_pieces ["src", "gl.c"] (by cbv) (by cbv) (by cbv)
  have hcreate : blocked.createDirs "src" = (false, blocked) :=
    Disk.createDirs_of_pieces ["src"] (by decide) (by cbv) (by cbv) (by cbv)
  have hparent : (createParent "src/gl.c" : StateM Disk _).run blocked
      = (.error (.noDirectory "src"), blocked) := by
    have hname : Path.parent? "src/gl.c" = some "src" := by cbv
    rw [createParent, hname]
    dsimp only
    rw [run_bind (run_createDirs "src" blocked), hcreate]
    rfl
  -- nothing is held behind it, so there is something to be written
  have hwrite : ((blankLoader text).write "" : StateM Disk _).run blocked
      = (.error (.noDirectory "src"), blocked) := by
    rw [run_write_of_not_holds rfl, hpath, writeText, run_bind hparent]
    · rfl
    · intro hheld
      obtain ⟨loc, hloc, -⟩ := hheld.locate
      rw [hpath, hlocate] at hloc
      cases hloc
  rw [run_writeEach_cons hwrite]

/-- For want of a declaration nothing is written, and behind a first file only the disk gets in the
way of the second. -/
theorem writeAll_failure_blocked :
    (∃ e, ((danglingContext danglingNames).writeAll .cpp "" : StateM Disk _).run blocked
        = (.error (.registry e), blocked)
      ∧ dangling.Lacks danglingNames e)
    ∧ ∃ first later, blank.files .c = .ok first :: later ∧ (∀ x ∈ later, ∃ f, x = .ok f)
      ∧ ∃ cause, (writeEach "" .empty later : StateM Disk _).run blocked
        = (.error (.write cause), blocked) := by
  constructor
  · obtain ⟨hunchanged, hnothing, -⟩ :=
      writeAll_failure dangling danglingTarget danglingNames Stem.default .cpp ""
    have hnot : ¬ dangling.DeclaresAll danglingNames := by
      intro hall
      obtain ⟨k, hk⟩ := hall.enums "GL_BACK" (by decide)
      cases hk
    obtain ⟨e, -, hrun⟩ := hnothing hnot
    have hblocked : ((danglingContext danglingNames).writeAll .cpp "" : StateM Disk _).run blocked
        = (.error (.registry e), blocked) := congrArg (StateT.run · blocked) (hrun (StateM Disk))
    exact ⟨e, hblocked, (hunchanged _ _ _ hblocked).2⟩
  · obtain ⟨header, loader, hfiles⟩ := files_blank
    obtain ⟨-, -, hlater⟩ := writeAll_failure ⟨[], [], [], []⟩ ⟨"gl", .ofPair 1 0, none⟩ .empty
      Stem.default .c ""
    obtain ⟨hmade, hfail⟩ := hlater _ _ hfiles
    have hrun := run_blocked loader .empty
    obtain ⟨cause, hcause⟩ := hfail 0 _ _ _ _ hrun
    rw [hcause] at hrun
    exact ⟨_, _, hfiles, hmade, cause, hrun⟩

end GLBindings
