import GLBindings.Emission.Bindings
import GLBindings.Proofs.Disk
import GLBindings.Proofs.Path
import Mathlib.Data.List.Nodup

namespace GLBindings

/-!
# Writing — generated files on a disk

A file is compared with what its path reads before it is written.  This file says what one write
does, and what many do one after the other.

* `Disk.Holds` — does a path read exactly a text?
* `writeText_spec` — a text is written, or an error is reported.
* `Wrote`, `writeText_ok`, `write_ok` — the effect of writing one file.
* `turns` — the files of a list, each with the disk that its turn finds.
* `writeEach_ok`, `log_of_writeEach` — the effect of writing them all, and what is reported.
* `writeEach_of_holds` — nothing happens when they all are up to date.
-/

variable {d d' : Disk} {base p : Path} {f : GeneratedFile}

/-! ### Reading texts -/

/-- Bytes are read as a text exactly when they are what the text is written as. -/
theorem fromUTF8?_eq_some {bytes : ByteArray} {text : String} :
    String.fromUTF8? bytes = some text ↔ bytes = text.toUTF8 := by
  rw [String.fromUTF8?]
  constructor
  · intro h
    split at h
    · rw [← Option.some.inj h]
      rfl
    · cases h
  · rintro rfl
    exact dif_pos text.isValidUTF8

/-- Does a path read exactly the bytes of a text? -/
def Disk.Holds (d : Disk) (p : Path) (text : String) : Prop :=
  d.read p = some text.toUTF8

instance (d : Disk) (p : Path) (text : String) : Decidable (d.Holds p text) :=
  inferInstanceAs (Decidable (d.read p = some text.toUTF8))

/-- Bytes that are not those of a text are not taken for it, whether they are UTF-8 or not. -/
theorem readText_eq_some {text : String} :
    (d.read p).bind String.fromUTF8? = some text ↔ d.Holds p text := by
  rw [Option.bind_eq_some_iff, Disk.Holds]
  simp only [fromUTF8?_eq_some]
  constructor
  · rintro ⟨_, h, rfl⟩
    exact h
  · exact fun h => ⟨_, h, rfl⟩

/-- A path that holds a text leads to a file. -/
theorem Disk.Holds.locate {text : String} (h : d.Holds p text) :
    ∃ loc, d.locate p = some loc ∧ d.fileAt loc = some text.toUTF8 := by
  rw [Disk.Holds, Disk.read_eq] at h
  exact Option.bind_eq_some_iff.mp h

/-! ### Runs of requests -/

/-- One step and the rest of a run. -/
theorem run_bind {α β : Type} {x : StateM Disk α} {k : α → StateM Disk β} {a : α}
    (h : x.run d = (a, d')) : (x >>= k).run d = (k a).run d' := by
  rw [StateT.run_bind, h]
  rfl

/-- Reading leaves the disk alone. -/
theorem run_readText (p : Path) (d : Disk) :
    (FileSystem.readText p : StateM Disk _).run d = ((d.read p).bind String.fromUTF8?, d) := rfl

/-- Directories are made on the disk, and the answer says whether they are there. -/
theorem run_createDirs (p : Path) (d : Disk) :
    (FileSystem.createDirs p : StateM Disk _).run d = ((d.createDirs p).1, (d.createDirs p).2) :=
  rfl

/-- A write that succeeds changes the disk. -/
theorem run_writeFile_some {bytes : ByteArray} (h : d.write p bytes = some d') :
    (FileSystem.writeFile p bytes : StateM Disk _).run d = (true, d') := by
  simp only [FileSystem.writeFile, StateT.run_modifyGet, h]
  rfl

/-- A write that fails does not. -/
theorem run_writeFile_none {bytes : ByteArray} (h : d.write p bytes = none) :
    (FileSystem.writeFile p bytes : StateM Disk _).run d = (false, d) := by
  simp only [FileSystem.writeFile, StateT.run_modifyGet, h]
  rfl

/-! ### One file -/

/-- Making the directory of a file makes nothing else, and it is there or an error is reported. -/
theorem createParent_spec (p : Path) (d : Disk) :
    ∃ made, Disk.OnlyDirectories d made
      ∧ ((createParent p : StateM Disk _).run d = (.ok (), made)
        ∨ ∃ e, (createParent p : StateM Disk _).run d = (.error e, made)) := by
  rw [createParent]
  -- a path without a directory in front of it needs none
  cases p.parent? with
  | none => exact ⟨d, .refl d, .inl rfl⟩
  | some directory =>
    refine ⟨_, Disk.onlyDirectories_createDirs d directory, ?_⟩
    dsimp only
    rw [run_bind (run_createDirs directory d)]
    cases (d.createDirs directory).1 with
    | true => exact .inl rfl
    | false => exact .inr ⟨_, rfl⟩

/-- A text that can be written is written behind its directory. -/
theorem writeText_spec (p : Path) (content : String) (d : Disk) :
    (∃ e d', (writeText p content : StateM Disk _).run d = (.error e, d'))
      ∨ ∃ made d', (writeText p content : StateM Disk _).run d = (.ok .written, d')
        ∧ Disk.OnlyDirectories d made ∧ made.write p content.toUTF8 = some d' := by
  -- the directory comes first, and the file only when that is there
  obtain ⟨made, hmade, hok | ⟨e, herror⟩⟩ := createParent_spec p d
  · rw [writeText, run_bind hok]
    dsimp only
    cases hwrite : made.write p content.toUTF8 with
    | some d' =>
      rw [run_bind (run_writeFile_some hwrite)]
      exact .inr ⟨made, d', rfl, hmade, hwrite⟩
    | none =>
      rw [run_bind (run_writeFile_none hwrite)]
      exact .inl ⟨_, _, rfl⟩
  · rw [writeText, run_bind herror]
    exact .inl ⟨_, _, rfl⟩

/-- A text is written when its directory is there, or could be made. -/
theorem run_writeText_of_made {made : Disk} {content : String} (directory : Path)
    (hparent : p.parent? = some directory) (hmade : d.createDirs directory = (true, made))
    (hwrite : made.write p content.toUTF8 = some d') :
    (writeText p content : StateM Disk _).run d = (.ok .written, d') := by
  have hcreate : (createParent p : StateM Disk _).run d = (.ok (), made) := by
    rw [createParent, hparent]
    dsimp only
    rw [run_bind (run_createDirs directory d), hmade]
    rfl
  rw [writeText, run_bind hcreate]
  dsimp only
  rw [run_bind (run_writeFile_some hwrite)]
  rfl

/-- A file that is there already is not written again. -/
theorem run_write_of_holds (hrules : f.rules.overwrite = .ifChanged)
    (h : d.Holds (f.path base) f.content) :
    (f.write base : StateM Disk _).run d = (.ok .unchanged, d) := by
  rw [GeneratedFile.write, hrules]
  dsimp only
  rw [run_bind (run_readText _ d), if_pos (readText_eq_some.mpr h)]
  rfl

/-- One that is not there, or different, is written. -/
theorem run_write_of_not_holds (hrules : f.rules.overwrite = .ifChanged)
    (h : ¬ d.Holds (f.path base) f.content) :
    (f.write base : StateM Disk _).run d
      = (writeText (f.path base) f.content : StateM Disk _).run d := by
  rw [GeneratedFile.write, hrules]
  dsimp only
  rw [run_bind (run_readText _ d), if_neg (readText_eq_some.not.mpr h)]

/-- A file that is always written is written whatever is there. -/
theorem run_write_of_always (hrules : f.rules.overwrite = .always) :
    (f.write base : StateM Disk _).run d
      = (writeText (f.path base) f.content : StateM Disk _).run d := by
  rw [GeneratedFile.write, hrules]

/-- A log adds what a write comes to. -/
theorem run_logWrite {log : WriteLog} {x : Except WriteError WriteResult}
    (h : (f.write base : StateM Disk _).run d = (x, d')) :
    (log.write f base : StateM Disk _).run d = (x.map (log.add (f.path base)), d') := by
  rw [WriteLog.write, run_bind h]
  rfl

/-- The effect of writing a file at a location: its path leads there, and nothing else changed but
directories that were added. -/
structure Wrote (base : Path) (f : GeneratedFile) (d d' : Disk) (loc : Location) : Prop where
  grows : Disk.Grows d d'
  leads : d'.locate (f.path base) = some loc
  holds : d'.fileAt loc = some f.content.toUTF8
  others : ∀ other, other ≠ loc → d'.fileAt other = d.fileAt other

/-- A text that is written without an error is there afterwards. -/
theorem writeText_ok {r : WriteResult}
    (h : (writeText (f.path base) f.content : StateM Disk _).run d = (.ok r, d')) :
    (∃ loc, Wrote base f d d' loc) ∧ r = .written := by
  rcases writeText_spec (f.path base) f.content d with ⟨e, _, herror⟩ | ⟨made, _, hok, hmade, hwrite⟩
  · rw [herror] at h
    cases h
  · rw [hok] at h
    cases h
    -- the path leads to the file, since the directories behind it stay
    obtain ⟨loc, hloc, hgrows, hbytes, hothers⟩ := Disk.write_spec hwrite
    refine ⟨⟨loc, hmade.grows.trans hgrows, hgrows.locate hloc, hbytes, fun other hother => ?_⟩, rfl⟩
    rw [hothers other hother, hmade.fileAt]

/-- **One file.**  A file that is written without an error is there afterwards.  It is reported as
unchanged exactly when its path read the right bytes before. -/
theorem write_ok (hrules : f.rules.overwrite = .ifChanged) {r : WriteResult}
    (h : (f.write base : StateM Disk _).run d = (.ok r, d')) :
    (∃ loc, Wrote base f d d' loc)
      ∧ r = if d.Holds (f.path base) f.content then .unchanged else .written := by
  by_cases hheld : d.Holds (f.path base) f.content
  · rw [run_write_of_holds hrules hheld] at h
    cases h
    obtain ⟨loc, hloc, hbytes⟩ := hheld.locate
    rw [if_pos hheld]
    exact ⟨⟨loc, .refl d, hloc, hbytes, fun _ _ => rfl⟩, rfl⟩
  · -- it is written, so the directory was made and the file could be put there
    rw [run_write_of_not_holds hrules hheld] at h
    rw [if_neg hheld]
    exact writeText_ok h

/-! ### Names of files -/

namespace GeneratedFile

/-- The name of a file. -/
def name (f : GeneratedFile) : String := f.segments.getLastD ""

/-- The file is compared before it is written, and has a proper name. -/
structure IsCareful (f : GeneratedFile) : Prop where
  rules : f.rules.overwrite = .ifChanged
  segments : f.segments ≠ []
  name : Disk.IsProper f.name ∧ '/' ∉ f.name.toList

/-- A usual file is written with care if its name is that of an entry. -/
theorem isCareful_source (above : List String) {name : String} (text : String)
    (hname : Disk.IsProper name) (hslash : '/' ∉ name.toList) :
    (source (above ++ [name]) text).IsCareful ∧ (source (above ++ [name]) text).name = name := by
  have hlast : (source (above ++ [name]) text).name = name := by
    simp [GeneratedFile.name, source]
  refine ⟨⟨rfl, by simp [source], ?_⟩, hlast⟩
  rw [hlast]
  exact ⟨hname, hslash⟩

/-- A file goes to its path below nothing, joined to the base. -/
theorem path_eq_join (base : Path) (h : f.segments ≠ []) :
    f.path base = Path.join base (f.path "") :=
  Path.joinAll_eq_join base h

/-- The path of a file ends with its name, below any base directory. -/
theorem getLast?_pieces_path (h : f.IsCareful) :
    (Path.pieces (f.path base)).getLast? = some f.name := by
  -- the name is the last of the segments
  have hsplit : f.segments = f.segments.dropLast ++ [f.name] := by
    have hlast : f.segments.getLast? = some (f.segments.getLast h.segments) :=
      List.getLast?_eq_some_getLast h.segments
    rw [GeneratedFile.name, List.getLastD_eq_getLast?, hlast]
    exact (List.dropLast_append_getLast h.segments).symm
  rw [path, hsplit, Path.joinAll_concat]
  exact Path.getLast?_pieces_join _ h.name.2

end GeneratedFile

/-- Files with different names are written at different locations. -/
theorem Wrote.getLast? {loc : Location} (hf : f.IsCareful) (h : Wrote base f d d' loc) :
    loc.getLast? = some f.name :=
  Disk.getLast?_locate hf.name.1 (GeneratedFile.getLast?_pieces_path hf) h.leads

/-! ### Many files -/

/-- The files of a list, each with the disk that its turn finds. -/
def turns (base : Path) (d : Disk) : List GeneratedFile → List (GeneratedFile × Disk)
  | [] => []
  | f :: fs => (f, d) :: turns base ((f.write base : StateM Disk _).run d).2 fs

/-- Each file has one turn. -/
theorem map_fst_turns (base : Path) (d : Disk) (fs : List GeneratedFile) :
    (turns base d fs).map (·.1) = fs := by
  induction fs generalizing d with
  | nil => rfl
  | cons f fs ih => rw [turns, List.map_cons, ih]

/-- A run goes on with what the first file leaves, or stops with its error. -/
theorem run_writeEach_cons {log : WriteLog} {rest : List (Except RegistryError GeneratedFile)}
    {x : Except WriteError WriteResult} (h : (f.write base : StateM Disk _).run d = (x, d')) :
    (writeEach base log (.ok f :: rest) : StateM Disk _).run d
      = match x with
        | .error e => (.error (.write e), d')
        | .ok r => (writeEach base (log.add (f.path base) r) rest : StateM Disk _).run d' := by
  rw [writeEach, run_bind (run_logWrite h)]
  cases x <;> rfl

/-- A run that succeeds writes its first file and goes on with the others. -/
theorem writeEach_cons_ok {log log' : WriteLog} {fs : List GeneratedFile}
    (h : (writeEach base log ((f :: fs).map .ok) : StateM Disk _).run d = (.ok log', d')) :
    ∃ r next, (f.write base : StateM Disk _).run d = (.ok r, next)
      ∧ (writeEach base (log.add (f.path base) r) (fs.map .ok) : StateM Disk _).run next
        = (.ok log', d') := by
  rcases hwrite : (f.write base : StateM Disk _).run d with ⟨e | r, next⟩
  · rw [List.map_cons, run_writeEach_cons hwrite] at h
    cases h
  · rw [List.map_cons, run_writeEach_cons hwrite] at h
    exact ⟨r, next, rfl, h⟩

/-- A run over files that could be made only fails where one cannot be written. -/
theorem writeEach_ok_or_error (base : Path) (log : WriteLog) (fs : List GeneratedFile) (d : Disk) :
    (∃ log' d', (writeEach base log (fs.map .ok) : StateM Disk _).run d = (.ok log', d'))
      ∨ ∃ e d', (writeEach base log (fs.map .ok) : StateM Disk _).run d
        = (.error (.write e), d') := by
  induction fs generalizing log d with
  | nil => exact .inl ⟨log, d, rfl⟩
  | cons f fs ih =>
    rcases hwrite : (f.write base : StateM Disk _).run d with ⟨e | r, next⟩
    · rw [List.map_cons, run_writeEach_cons hwrite]
      exact .inr ⟨e, next, rfl⟩
    · rw [List.map_cons, run_writeEach_cons hwrite]
      exact ih _ next

/-- The files of a list are careful, and no two of them have the same name. -/
structure AreCareful (fs : List GeneratedFile) : Prop where
  careful : ∀ f ∈ fs, f.IsCareful
  names : (fs.map (·.name)).Nodup

namespace AreCareful

variable {fs : List GeneratedFile}

/-- Later files do not lose their names to a file that is written first. -/
theorem tail (h : AreCareful (f :: fs)) : AreCareful fs :=
  ⟨fun g hg => h.careful g (List.mem_cons_of_mem f hg), (List.nodup_cons.mp h.names).2⟩

/-- The first file is written with care. -/
theorem head (h : AreCareful (f :: fs)) : f.IsCareful :=
  h.careful f List.mem_cons_self

/-- The first file is not written where another one is. -/
theorem ne_of_locate (h : AreCareful (f :: fs)) {loc : Location} (hwrote : Wrote base f d d' loc)
    {g : GeneratedFile} (hg : g ∈ fs) {e : Disk} {other : Location}
    (hother : e.locate (g.path base) = some other) : other ≠ loc := by
  -- a location ends in the name of the file, and the names differ
  rintro rfl
  have hgc : g.IsCareful := h.careful g (List.mem_cons_of_mem f hg)
  have hlast := Disk.getLast?_locate hgc.name.1 (GeneratedFile.getLast?_pieces_path hgc) hother
  rw [hwrote.getLast? h.head] at hlast
  have hname : f.name ∈ fs.map (·.name) :=
    Option.some.inj hlast ▸ List.mem_map_of_mem hg
  exact (List.nodup_cons.mp h.names).1 hname

/-- The files have different paths. -/
theorem nodup_paths (h : AreCareful fs) (base : Path) : (fs.map (·.path base)).Nodup := by
  refine List.Nodup.of_map (fun p => (Path.pieces p).getLast?) ?_
  -- paths with different last pieces are different
  have hnames : (fs.map (·.path base)).map (fun p => (Path.pieces p).getLast?)
      = (fs.map (·.name)).map some := by
    rw [List.map_map, List.map_map]
    exact List.map_congr_left fun f hf => GeneratedFile.getLast?_pieces_path (h.careful f hf)
  rw [hnames]
  exact h.names.map fun _ _ => Option.some.inj

end AreCareful

/-- **Many files.**  After a run that succeeds every file is there, and every other file is as it
was. -/
theorem writeEach_ok {fs : List GeneratedFile} (hfs : AreCareful fs) {log log' : WriteLog}
    (h : (writeEach base log (fs.map .ok) : StateM Disk _).run d = (.ok log', d')) :
    Disk.Grows d d'
      ∧ (∀ f ∈ fs, d'.Holds (f.path base) f.content)
      ∧ ∀ loc, (∀ f ∈ fs, d'.locate (f.path base) ≠ some loc) → d'.fileAt loc = d.fileAt loc := by
  induction fs generalizing d log with
  | nil =>
    cases h
    exact ⟨.refl _, by simp, fun _ _ => rfl⟩
  | cons f fs ih =>
    obtain ⟨r, next, hwrite, hrest⟩ := writeEach_cons_ok h
    obtain ⟨⟨loc, hwrote⟩, -⟩ := write_ok hfs.head.rules hwrite
    -- the others are written on the disk that the first one leaves
    obtain ⟨hgrows, hholds, hothers⟩ := ih hfs.tail hrest
    have hleads : d'.locate (f.path base) = some loc := hgrows.locate hwrote.leads
    refine ⟨hwrote.grows.trans hgrows, ?_, ?_⟩
    · intro g hg
      rcases List.mem_cons.mp hg with rfl | hg
      · -- what was written first is not touched by the others
        rw [Disk.Holds, Disk.read_of_locate hleads, ← hwrote.holds]
        exact hothers loc fun k hk hlocate => hfs.ne_of_locate hwrote hk hlocate rfl
      · exact hholds g hg
    · intro other hother
      -- no file was put there, neither the first one nor another
      have hne : other ≠ loc := by
        rintro rfl
        exact hother f List.mem_cons_self hleads
      rw [hothers other fun g hg => hother g (List.mem_cons_of_mem f hg),
        hwrote.others other hne]

/-- What is reported of a run: the files whose path read the right bytes at their turn, and the
others, both in order. -/
theorem log_of_writeEach {fs : List GeneratedFile} (hfs : ∀ f ∈ fs, f.IsCareful)
    {log log' : WriteLog}
    (h : (writeEach base log (fs.map .ok) : StateM Disk _).run d = (.ok log', d')) :
    log' = ⟨log.written ++ ((turns base d fs).filter fun t =>
          !decide (t.2.Holds (t.1.path base) t.1.content)).map (·.1.path base),
        log.unchanged ++ ((turns base d fs).filter fun t =>
          decide (t.2.Holds (t.1.path base) t.1.content)).map (·.1.path base)⟩ := by
  induction fs generalizing d log with
  | nil =>
    cases h
    simp [turns]
  | cons f fs ih =>
    obtain ⟨r, next, hwrite, hrest⟩ := writeEach_cons_ok h
    have hr := (write_ok (hfs f List.mem_cons_self).rules hwrite).2
    -- the first turn finds the disk as it is, the others what the first file leaves
    rw [ih (fun g hg => hfs g (List.mem_cons_of_mem f hg)) hrest, turns, hwrite, hr]
    by_cases hheld : d.Holds (f.path base) f.content
    · simp [WriteLog.add, hheld]
    · simp [WriteLog.add, hheld]

/-- **Nothing to do.**  When every path reads its file already, all files are reported as unchanged
and the disk is as it was. -/
theorem writeEach_of_holds {fs : List GeneratedFile} (hfs : ∀ f ∈ fs, f.IsCareful)
    (hheld : ∀ f ∈ fs, d.Holds (f.path base) f.content) (log : WriteLog) :
    (writeEach base log (fs.map .ok) : StateM Disk _).run d
      = (.ok ⟨log.written, log.unchanged ++ fs.map (·.path base)⟩, d) := by
  induction fs generalizing log with
  | nil =>
    rw [List.map_nil, List.map_nil, List.append_nil]
    rfl
  | cons f fs ih =>
    -- the first file is left alone, so the others still find their paths as they were
    have hwrite := run_write_of_holds (hfs f List.mem_cons_self).rules
      (hheld f List.mem_cons_self)
    rw [List.map_cons, run_writeEach_cons hwrite]
    dsimp only
    rw [ih (fun g hg => hfs g (List.mem_cons_of_mem f hg))
      (fun g hg => hheld g (List.mem_cons_of_mem f hg))]
    simp [WriteLog.add]

/-- A path that leads somewhere before a run holds at its turn what it held before the run. -/
theorem holds_of_mem_turns {fs : List GeneratedFile} (hfs : AreCareful fs) {log log' : WriteLog}
    (h : (writeEach base log (fs.map .ok) : StateM Disk _).run d = (.ok log', d'))
    {t : GeneratedFile × Disk} (ht : t ∈ turns base d fs) {loc : Location}
    (hloc : d.locate (t.1.path base) = some loc) :
    t.2.locate (t.1.path base) = some loc ∧ t.2.fileAt loc = d.fileAt loc := by
  induction fs generalizing d log with
  | nil => cases ht
  | cons f fs ih =>
    obtain ⟨r, next, hwrite, hrest⟩ := writeEach_cons_ok h
    rw [turns, hwrite] at ht
    rcases List.mem_cons.mp ht with rfl | ht
    · exact ⟨hloc, rfl⟩
    · -- the first file was put somewhere else, and the path still leads where it led
      obtain ⟨⟨first, hwrote⟩, -⟩ := write_ok hfs.head.rules hwrite
      have hmem : t.1 ∈ fs := by
        rw [← map_fst_turns base next fs]
        exact List.mem_map_of_mem ht
      have hnext : next.locate (t.1.path base) = some loc := hwrote.grows.locate hloc
      obtain ⟨hlocate, hfile⟩ := ih hfs.tail hrest ht hnext
      refine ⟨hlocate, ?_⟩
      rw [hfile, hwrote.others loc (hfs.ne_of_locate hwrote hmem hnext)]

end GLBindings
