import GLBindings.Proofs.Emission.Agreement
import GLBindings.Proofs.Emission.Writing
import Mathlib

namespace GLBindings

/-!
# Regeneration — previews and what is written agree

The previews of a context and the files that it writes are made in two places, and their paths are
joined in two ways.  This file proves that they come to the same, whatever is on the disk.

* `areCareful_files` — the files of a context are compared before they are written, and have
  different names.
* `Generated`, `writeAll_spec` — the disk and the report after bindings were written.
* `reported_detour` — why the report is about the turn of a file, not about the disk before.
-/

variable {c : Context} {language : Language} {fs : List GeneratedFile}

/-! ### The files of a context -/

/-- The names of the files for a language. -/
def Language.fileNames : Language → List String
  | .c => ["gl.h", "gl.c"]
  | .cpp => ["gl.h", "gl.c", "gl.hpp"]

/-- A file that is made from something looked up is written with care, under the name it is given. -/
theorem isCareful_of_map_eq_ok {α : Type} (x : Except RegistryError α) (file : α → GeneratedFile)
    (name : String) (hfile : ∀ a, ∃ above text, file a = .source (above ++ [name]) text)
    (hname : Disk.IsProper name) (hslash : '/' ∉ name.toList) :
    ∀ f, x.map file = .ok f → f.IsCareful ∧ f.name = name := by
  intro f hf
  obtain ⟨a, -, rfl⟩ := map_eq_ok.mp hf
  obtain ⟨above, text, h⟩ := hfile a
  rw [h]
  exact GeneratedFile.isCareful_source above text hname hslash

/-- All files of a language are written with care, under the names that it has for them. -/
theorem isCareful_files (c : Context) (language : Language) :
    List.Forall₂ (fun x name => ∀ f, x = .ok f → f.IsCareful ∧ f.name = name) (c.files language)
      language.fileNames := by
  have hheader := isCareful_of_map_eq_ok c.cHeader CHeader.file "gl.h"
    (fun header => ⟨["include", header.stem], _, rfl⟩) ⟨by decide, by decide, by decide⟩ (by decide)
  have hloader := isCareful_of_map_eq_ok c.cLoader CLoader.file "gl.c"
    (fun loader => ⟨["src"], _, rfl⟩) ⟨by decide, by decide, by decide⟩ (by decide)
  have hwrapping := isCareful_of_map_eq_ok c.cppHeader CppHeader.file "gl.hpp"
    (fun wrapping => ⟨["include", wrapping.stem], _, rfl⟩) ⟨by decide, by decide, by decide⟩
    (by decide)
  cases language with
  | c => exact .cons hheader (.cons hloader .nil)
  | cpp => exact .cons hheader (.cons hloader (.cons hwrapping .nil))

/-- The files of a context are compared before they are written, and have different names. -/
theorem areCareful_files (h : c.files language = fs.map .ok) : AreCareful fs := by
  have hall := isCareful_files c language
  rw [h, List.forall₂_map_left_iff] at hall
  obtain ⟨hcareful, hnames⟩ := (List.forall₂_and_left fs _).mp (hall.imp fun f name hf => hf f rfl)
  refine ⟨hcareful, ?_⟩
  -- names that a language has for its files are different
  have hmap : fs.map (·.name) = language.fileNames := by
    rw [← List.forall₂_eq_eq_eq, List.forall₂_map_left_iff]
    exact hnames
  rw [hmap]
  cases language <;> decide

/-! ### The disk and the report -/

/-- What it comes to that files with some previews are written below a base directory: the disk
`before` becomes `after`, and `log` is the report.  The `turns` of the files are what they are
compared with, each with the disk that the files in front of it left. -/
structure Generated (base : Path) (fs : List GeneratedFile) (previews : List Preview)
    (before after : Disk) (log : WriteLog) : Prop where
  /-- Every file goes to the path of its preview below the base. -/
  paths : fs.map (·.path base) = previews.map fun p => Path.join base p.path
  /-- There it holds what its preview shows. -/
  contents : ∀ p ∈ previews, after.read (Path.join base p.path) = some p.content.toUTF8
  /-- No other file has changed, appeared or vanished. -/
  others : ∀ loc, (∀ p ∈ previews, after.locate (Path.join base p.path) ≠ some loc) →
    after.fileAt loc = before.fileAt loc
  /-- No directory has vanished either. -/
  directories : Disk.Grows before after
  /-- Every path is reported once. -/
  reported : (log.written ++ log.unchanged).Perm (previews.map fun p => Path.join base p.path)
    ∧ (log.written ++ log.unchanged).Nodup
  /-- A file is reported as unchanged when its path read the right bytes at its turn. -/
  unchanged : ∀ t ∈ turns base before fs, t.1.path base ∈ log.unchanged
    ↔ t.2.read (t.1.path base) = some t.1.content.toUTF8
  /-- For a path that led somewhere before, that is what the file held before. -/
  unchangedBefore : ∀ p ∈ previews, ∀ loc, before.locate (Path.join base p.path) = some loc →
    (Path.join base p.path ∈ log.unchanged ↔ before.fileAt loc = some p.content.toUTF8)

section Run

variable {base : Path} {d d' : Disk} {log : WriteLog}

/-- A preview shows where its file goes below a base directory. -/
theorem path_preview (hfs : AreCareful fs) {f : GeneratedFile} (hf : f ∈ fs) :
    Path.join base (Preview.of f).path = f.path base :=
  (GeneratedFile.path_eq_join base (hfs.careful f hf).segments).symm

/-- What is reported: of the paths in order those that did not hold their file at their turn, and
those that did. -/
theorem log_eq (hfs : AreCareful fs)
    (h : (writeEach base .empty (fs.map .ok) : StateM Disk _).run d = (.ok log, d')) :
    log = ⟨((turns base d fs).filter fun t =>
          !decide (t.2.Holds (t.1.path base) t.1.content)).map (·.1.path base),
        ((turns base d fs).filter fun t =>
          decide (t.2.Holds (t.1.path base) t.1.content)).map (·.1.path base)⟩ := by
  rw [log_of_writeEach hfs.careful h]
  rfl

/-- The turns of a run are for the files in order. -/
theorem paths_turns (base : Path) (d : Disk) (fs : List GeneratedFile) :
    (turns base d fs).map (·.1.path base) = fs.map (·.path base) := by
  have hmap : (turns base d fs).map (·.1.path base)
      = ((turns base d fs).map (·.1)).map (·.path base) := by
    rw [List.map_map]
    rfl
  rw [hmap, map_fst_turns]

/-- What is reported are all paths, each once. -/
theorem perm_log (hfs : AreCareful fs)
    (h : (writeEach base .empty (fs.map .ok) : StateM Disk _).run d = (.ok log, d')) :
    (log.written ++ log.unchanged).Perm (fs.map (·.path base)) := by
  rw [log_eq hfs h, ← List.map_append, ← paths_turns base d fs]
  -- what held its file and what did not are all turns together
  refine List.Perm.map _ (List.perm_append_comm.trans ?_)
  exact List.filter_append_perm
    (fun t : GeneratedFile × Disk => decide (t.2.Holds (t.1.path base) t.1.content)) _

/-- A file is logged as unchanged exactly when the disk held its content when its turn came. -/
theorem mem_unchanged_iff (hfs : AreCareful fs)
    (h : (writeEach base .empty (fs.map .ok) : StateM Disk _).run d = (.ok log, d'))
    {t : GeneratedFile × Disk} (ht : t ∈ turns base d fs) :
    t.1.path base ∈ log.unchanged ↔ t.2.Holds (t.1.path base) t.1.content := by
  rw [log_eq hfs h, List.mem_map]
  constructor
  · rintro ⟨u, hu, hpath⟩
    obtain ⟨hmem, hheld⟩ := List.mem_filter.mp hu
    -- no two files have the same path
    have hnd : ((turns base d fs).map (·.1.path base)).Nodup := by
      rw [paths_turns]
      exact hfs.nodup_paths base
    obtain rfl : u = t := List.inj_on_of_nodup_map hnd hmem ht hpath
    exact of_decide_eq_true hheld
  · exact fun hheld => ⟨t, List.mem_filter.mpr ⟨ht, decide_eq_true hheld⟩, rfl⟩

/-- **The run of a context.**  It has all that is wanted of it. -/
theorem generated_of_writeEach (hfs : AreCareful fs)
    (h : (writeEach base .empty (fs.map .ok) : StateM Disk _).run d = (.ok log, d')) :
    Generated base fs (fs.map .of) d d' log := by
  have hpaths : fs.map (·.path base) = (fs.map Preview.of).map fun p => Path.join base p.path := by
    rw [List.map_map]
    exact List.map_congr_left fun f hf => (path_preview hfs hf).symm
  -- what the run did to the disk, whatever it reports
  obtain ⟨hgrows, hholds, hothers⟩ := writeEach_ok hfs h
  have hperm := perm_log hfs h
  constructor
  case paths => exact hpaths
  case contents =>
    intro p hp
    obtain ⟨f, hf, rfl⟩ := List.mem_map.mp hp
    rw [path_preview hfs hf]
    exact hholds f hf
  case others =>
    intro loc hloc
    refine hothers loc fun f hf => ?_
    rw [← path_preview hfs hf]
    exact hloc _ (List.mem_map_of_mem hf)
  case directories => exact hgrows
  case reported =>
    rw [← hpaths]
    exact ⟨hperm, hperm.nodup_iff.mpr (hfs.nodup_paths base)⟩
  case unchanged => exact fun t ht => mem_unchanged_iff hfs h ht
  case unchangedBefore =>
    intro p hp loc hloc
    obtain ⟨f, hf, rfl⟩ := List.mem_map.mp hp
    rw [path_preview hfs hf] at hloc ⊢
    -- no file before it in the list is written where the path led
    obtain ⟨t, ht, rfl⟩ : ∃ t ∈ turns base d fs, t.1 = f := by
      rw [← map_fst_turns base d fs] at hf
      exact List.mem_map.mp hf
    obtain ⟨hlocate, hfile⟩ := holds_of_mem_turns hfs h ht hloc
    rw [mem_unchanged_iff hfs h ht, Disk.Holds, Disk.read_of_locate hlocate, hfile]
    rfl

end Run

/-! ### A detour -/

/-- Bindings for nothing. -/
def blank : Context :=
  ⟨.ofRegistry ⟨[], [], [], []⟩, ⟨"gl", .ofPair 1 0, none⟩, .empty, Stem.default⟩

/-- The file of its header, with any text. -/
def blankHeader (text : String) : GeneratedFile := .source ["include", "glgen", "gl.h"] text

/-- The file of its loader, with any text. -/
def blankLoader (text : String) : GeneratedFile := .source ["src", "gl.c"] text

/-- The bindings for no names are two files. -/
theorem files_blank : ∃ header loader,
    blank.files .c = [.ok (blankHeader header), .ok (blankLoader loader)] :=
  ⟨_, _, rfl⟩

/-- A disk with a header and a loader below the working directory, where there is no `x`. -/
def settled (header loader : ByteArray) : Disk where
  cwd := ["work"]
  entries := [(["work"], .directory), (["work", "include"], .directory),
    (["work", "include", "glgen"], .directory),
    (["work", "include", "glgen", "gl.h"], .file header),
    (["work", "src"], .directory), (["work", "src", "gl.c"], .file loader)]

/-- The same with a directory `x`. -/
def detoured (header loader : ByteArray) : Disk where
  cwd := ["work"]
  entries := (settled header loader).entries ++ [(["work", "x"], .directory)]

/-- The header lies behind a detour, through a directory that need not be there. -/
theorem locate_header (d : Disk) : d.locate "x/../include/glgen/gl.h"
    = d.walk d.cwd ["x", "..", "include", "glgen", "gl.h"] :=
  Disk.locate_of_pieces _ (by cbv) (by cbv) (by cbv)

/-- So does the loader. -/
theorem locate_loader (d : Disk) :
    d.locate "x/../src/gl.c" = d.walk d.cwd ["x", "..", "src", "gl.c"] :=
  Disk.locate_of_pieces _ (by cbv) (by cbv) (by cbv)

/-- What was there is written again through a directory that is not there yet, and after that
found through it. -/
theorem run_detour (header loader : String) :
    (writeEach "x/.." .empty [.ok (blankHeader header), .ok (blankLoader loader)] :
        StateM Disk _).run
        (settled (blankHeader header).content.toUTF8 (blankLoader loader).content.toUTF8)
      = (.ok ⟨["x/../include/glgen/gl.h"], ["x/../src/gl.c"]⟩,
        detoured (blankHeader header).content.toUTF8 (blankLoader loader).content.toUTF8) := by
  have hheader : (blankHeader header).path "x/.." = "x/../include/glgen/gl.h" := by cbv
  have hloader : (blankLoader loader).path "x/.." = "x/../src/gl.c" := by cbv
  have hfirst : ((blankHeader header).write "x/.." : StateM Disk _).run
        (settled (blankHeader header).content.toUTF8 (blankLoader loader).content.toUTF8)
      = (.ok .written,
        detoured (blankHeader header).content.toUTF8 (blankLoader loader).content.toUTF8) := by
    rw [run_write_of_not_holds rfl, hheader]
    · refine run_writeText_of_made "x/../include/glgen" (by cbv)
        (Disk.createDirs_of_pieces ["x", "..", "include", "glgen"] (by decide) (by cbv) (by cbv)
          (by cbv)) ?_
      rw [Disk.write, locate_header]
      rfl
    · -- there is no directory `x` to start from
      intro hheld
      obtain ⟨loc, hloc, -⟩ := hheld.locate
      rw [hheader, locate_header] at hloc
      cases hloc
  -- after that the loader is found, through the directory that was made for the header
  have hsecond : (detoured (blankHeader header).content.toUTF8
      (blankLoader loader).content.toUTF8).Holds ((blankLoader loader).path "x/..")
        (blankLoader loader).content := by
    rw [hloader, Disk.Holds, Disk.read_eq, locate_loader]
    rfl
  rw [run_writeEach_cons hfirst]
  dsimp only
  rw [run_writeEach_cons (run_write_of_holds rfl hsecond), hheader, hloader]
  rfl

/-! ### Bindings on a disk -/

/-- **Writing bindings.**  A context whose previews can be made writes these files, unless the disk
refuses a directory or a file.  They are reported and found below the base as the previews show
them, nothing else changes, and writing them again only finds them unchanged. -/
theorem writeAll_spec (c : Context) (language : Language) (base : Path) (d : Disk)
    (previews : List Preview) (hpreview : c.preview language = .ok previews)
    (hdisk : ∀ e, ((c.writeAll language base : StateM Disk _).run d).1 ≠ .error (.write e)) :
    ∃ fs log d', c.files language = fs.map .ok ∧ previews = fs.map .of
      ∧ (c.writeAll language base : StateM Disk _).run d = (.ok log, d')
      ∧ Generated base fs previews d d' log
      ∧ (c.writeAll language base : StateM Disk _).run d'
        = (.ok ⟨[], previews.map fun p => Path.join base p.path⟩, d') := by
  obtain ⟨fs, hfiles, rfl⟩ := preview_eq_ok.mp hpreview
  have hfs : AreCareful fs := areCareful_files hfiles
  rw [Context.writeAll, hfiles] at hdisk ⊢
  rcases writeEach_ok_or_error base .empty fs d with ⟨log, d', hrun⟩ | ⟨e, _, hrun⟩
  · have hgenerated := generated_of_writeEach hfs hrun
    refine ⟨fs, log, d', rfl, rfl, hrun, hgenerated, ?_⟩
    -- everything is held now, so a second run writes nothing
    rw [writeEach_of_holds hfs.careful (writeEach_ok hfs hrun).2.1, hgenerated.paths]
    rfl
  · exact absurd (congrArg Prod.fst hrun) (hdisk e)

/-- The bindings for nothing, written through a detour. -/
theorem generated_detour : ∃ previews fs before log after,
    blank.preview .c = .ok previews
      ∧ (blank.writeAll .c "x/.." : StateM Disk _).run before = (.ok log, after)
      ∧ Generated "x/.." fs previews before after log
      ∧ (blank.writeAll .c "x/.." : StateM Disk _).run after
        = (.ok ⟨[], previews.map fun p => Path.join "x/.." p.path⟩, after) := by
  obtain ⟨header, loader, hfiles⟩ := files_blank
  have hpreview : blank.preview .c = .ok [_, _] := preview_eq_ok.mpr ⟨[_, _], hfiles, rfl⟩
  have hrun := run_detour header loader
  rw [← hfiles] at hrun
  obtain ⟨fs, log, after, -, -, hresult, hgenerated, hagain⟩ :=
    writeAll_spec blank .c "x/.." _ _ hpreview fun e he => by
      rw [Context.writeAll, hrun] at he
      cases he
  exact ⟨_, fs, _, log, after, hpreview, hresult, hgenerated, hagain⟩

/-- **Detours.**  A report is not about the disk before.  The header was there all the time, but
is not reported as unchanged, since its path led nowhere; the loader is, although its path led
nowhere either before the header was written. -/
theorem reported_detour : ∃ header loader before log after,
    blank.preview .c = .ok [header, loader]
      ∧ (blank.writeAll .c "x/.." : StateM Disk _).run before = (.ok log, after)
      ∧ (Path.join "x/.." header.path ∉ log.unchanged
        ∧ ∃ loc, after.locate (Path.join "x/.." header.path) = some loc
          ∧ before.fileAt loc = some header.content.toUTF8)
      ∧ Path.join "x/.." loader.path ∈ log.unchanged
      ∧ before.read (Path.join "x/.." loader.path) = none := by
  obtain ⟨header, loader, hfiles⟩ := files_blank
  have hpreview : blank.preview .c = .ok [_, _] := preview_eq_ok.mpr ⟨[_, _], hfiles, rfl⟩
  have hrun := run_detour header loader
  rw [← hfiles] at hrun
  have hheader : Path.join "x/.." (Preview.of (blankHeader header)).path
      = "x/../include/glgen/gl.h" := by cbv
  have hloader : Path.join "x/.." (Preview.of (blankLoader loader)).path = "x/../src/gl.c" := by
    cbv
  refine ⟨_, _, _, _, _, hpreview, hrun,
    ⟨?_, ["work", "include", "glgen", "gl.h"], ?_, rfl⟩, ?_, ?_⟩
  · rw [hheader]
    decide
  · rw [hheader, locate_header]
    rfl
  · rw [hloader]
    decide
  · rw [hloader, Disk.read_eq, locate_loader]
    rfl

end GLBindings
