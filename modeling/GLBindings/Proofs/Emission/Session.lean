import GLBindings.Proofs.Emission.Writing

namespace GLBindings

/-!
# Session — files that are generated while others edit the disk

Between two writes anything may happen to a file: it may be taken away, or replaced by bytes that
are no text.  A write goes by what it finds at that moment, and a log may be kept over many of them.

* `Action`, `Session.step`, `Session.run` — edits from outside and writes, with the log that is kept.
* `Attempt`, `Session.attempts` — the writes of a run, each between the disk that it finds and the
  one that it leaves.
* `GeneratedFile.bytes` — what a file has to hold, byte by byte.
* `Attempt.Faithful`, `faithful_write` — what one write does and reports.
* `Attempt.listed?`, `log_step`, `log_run` — what a log lists behind one action, and behind a run.
* `session_faithful` — both, for every run.
-/

/-! ### Runs -/

/-- What happens to a disk. -/
inductive Action where
  /-- A file is put there from outside. -/
  | put (p : Path) (bytes : ByteArray)
  /-- A file is taken away from outside. -/
  | remove (p : Path)
  /-- A file is written. -/
  | write (f : GeneratedFile) (base : Path)
  /-- A file is written, and the log is told of it. -/
  | record (f : GeneratedFile) (base : Path)

/-- A disk, and the log that is kept over the run. -/
structure Session where
  disk : Disk
  log : WriteLog

/-- What an action writes. -/
def Action.file? : Action → Option (GeneratedFile × Path)
  | .put _ _ => none
  | .remove _ => none
  | .write f base => some (f, base)
  | .record f base => some (f, base)

/-- Is the log told of it? -/
def Action.isRecorded : Action → Bool
  | .record _ _ => true
  | _ => false

/-- A write in a run. -/
structure Attempt where
  file : GeneratedFile
  base : Path
  /-- Is the log told of it? -/
  isRecorded : Bool
  outcome : Except WriteError WriteResult
  /-- The disk that it finds. -/
  before : Disk
  /-- The disk that it leaves. -/
  after : Disk

namespace Session

/-- What one action leaves.  A write that fails leaves the log as it is. -/
def step (s : Session) : Action → Session
  | .put p bytes => { s with disk := s.disk.place p bytes }
  | .remove p => { s with disk := s.disk.remove p }
  | .write f base => { s with disk := ((f.write base : StateM Disk _).run s.disk).2 }
  | .record f base =>
    match (s.log.write f base : StateM Disk _).run s.disk with
    | (.ok log, d) => ⟨d, log⟩
    | (.error _, d) => ⟨d, s.log⟩

/-- What many actions leave, one after the other. -/
def run (s : Session) (actions : List Action) : Session :=
  actions.foldl step s

/-- The write that an action is, if it is one. -/
def attempt? (s : Session) (a : Action) : Option Attempt :=
  a.file?.map fun (f, base) =>
    { file := f
      base := base
      isRecorded := a.isRecorded
      outcome := ((f.write base : StateM Disk _).run s.disk).1
      before := s.disk
      after := (s.step a).disk }

/-- The writes of a run, in order. -/
def attempts (s : Session) : List Action → List Attempt
  | [] => []
  | a :: actions => (s.attempt? a).toList ++ (s.step a).attempts actions

end Session

/-! ### One write -/

/-- What a file has to hold: its text, behind a line for its banner if there is one. -/
def GeneratedFile.bytes (f : GeneratedFile) : ByteArray :=
  match f.rules.banner with
  | some line => line.toUTF8 ++ "\n".toUTF8 ++ f.text.toUTF8
  | none => f.text.toUTF8

/-- What is compared as a text is written as bytes. -/
theorem GeneratedFile.toUTF8_content (f : GeneratedFile) : f.content.toUTF8 = f.bytes := by
  rw [content, bytes]
  cases f.rules.banner with
  | none => rfl
  | some line =>
    show (line ++ "\n" ++ f.text).toByteArray
      = line.toByteArray ++ "\n".toByteArray ++ f.text.toByteArray
    rw [String.toByteArray_append, String.toByteArray_append]

namespace Attempt

/-- Where the file goes. -/
def path (t : Attempt) : Path := t.file.path t.base

/-- What a write does and reports. -/
structure Faithful (t : Attempt) : Prop where
  /-- The path leads to a file with the right bytes afterwards, and every other file holds what it
  held. -/
  done : ∀ r, t.outcome = .ok r → ∃ loc, t.after.locate t.path = some loc
    ∧ t.after.fileAt loc = some t.file.bytes
    ∧ ∀ other, other ≠ loc → t.after.fileAt other = t.before.fileAt other
  /-- Of a file that is only written when it changes, it is said that it has not, exactly when the
  path read the right bytes. -/
  unchanged : t.file.rules.overwrite = .ifChanged →
    (t.outcome = .ok .unchanged ↔ t.before.read t.path = some t.file.bytes)
  /-- Then the disk is left alone. -/
  still : t.outcome = .ok .unchanged → t.after = t.before
  /-- A file that is always written is never said to be unchanged. -/
  always : t.file.rules.overwrite = .always → ∀ r, t.outcome = .ok r → r = .written

end Attempt

section Writes

variable {d d' : Disk} {base : Path} {f : GeneratedFile} {x : Except WriteError WriteResult}

/-- A file that was there is reported without a request to change anything. -/
theorem write_unchanged (h : (f.write base : StateM Disk _).run d = (.ok .unchanged, d')) :
    f.rules.overwrite = .ifChanged ∧ d.Holds (f.path base) f.content ∧ d' = d := by
  cases hrules : f.rules.overwrite with
  | always =>
    rw [run_write_of_always hrules] at h
    cases (writeText_ok h).2
  | ifChanged =>
    by_cases hheld : d.Holds (f.path base) f.content
    · rw [run_write_of_holds hrules hheld] at h
      cases h
      exact ⟨rfl, hheld, rfl⟩
    · -- a file that was different is reported as written
      have hresult := (write_ok hrules h).2
      rw [if_neg hheld] at hresult
      cases hresult

/-- **One write**, whatever its rules are and whatever it finds. -/
theorem faithful_write (isRecorded : Bool) (h : (f.write base : StateM Disk _).run d = (x, d')) :
    (⟨f, base, isRecorded, x, d, d'⟩ : Attempt).Faithful := by
  have hholds : d.Holds (f.path base) f.content ↔ d.read (f.path base) = some f.bytes := by
    rw [Disk.Holds, f.toUTF8_content]
  constructor
  case done =>
    rintro r rfl
    -- under either rule the file is there afterwards
    have hwrote : ∃ loc, Wrote base f d d' loc := by
      cases hrules : f.rules.overwrite with
      | always => exact (writeText_ok (run_write_of_always hrules ▸ h)).1
      | ifChanged => exact (write_ok hrules h).1
    obtain ⟨loc, hloc⟩ := hwrote
    exact ⟨loc, hloc.leads, f.toUTF8_content ▸ hloc.holds, hloc.others⟩
  case unchanged =>
    intro hrules
    show x = .ok .unchanged ↔ d.read (f.path base) = some f.bytes
    rw [← hholds]
    constructor
    · rintro rfl
      exact (write_unchanged h).2.1
    · intro hheld
      rw [run_write_of_holds hrules hheld] at h
      exact (congrArg Prod.fst h).symm
  case still =>
    rintro rfl
    exact (write_unchanged h).2.2
  case always =>
    rintro hrules r rfl
    rw [run_write_of_always hrules] at h
    exact (writeText_ok h).2

end Writes

/-! ### The log -/

/-- What a log lists of a write among those with a certain result. -/
def Attempt.listed? (r : WriteResult) (t : Attempt) : Option Path :=
  match t.isRecorded, t.outcome with
  | true, .ok r' => if r' = r then some t.path else none
  | _, _ => none

/-- A log, with what it lists of some writes behind it. -/
def WriteLog.behind (log : WriteLog) (ts : List Attempt) : WriteLog :=
  ⟨log.written ++ ts.filterMap (·.listed? .written),
    log.unchanged ++ ts.filterMap (·.listed? .unchanged)⟩

namespace Session

variable (s : Session)

/-- A write of which the log is told. -/
theorem step_record {f : GeneratedFile} {base : Path} {x : Except WriteError WriteResult} {d : Disk}
    (h : (f.write base : StateM Disk _).run s.disk = (x, d)) :
    s.step (.record f base)
      = ⟨d, match x with
        | .ok r => s.log.add (f.path base) r
        | .error _ => s.log⟩ := by
  rw [step, run_logWrite h]
  cases x <;> rfl

/-- What a write in a session comes to. -/
theorem run_attempt? {a : Action} {t : Attempt} (h : s.attempt? a = some t) :
    (t.file.write t.base : StateM Disk _).run s.disk = (t.outcome, t.after) ∧ t.before = s.disk := by
  cases a with
  | put p bytes => cases h
  | remove p => cases h
  | write f base =>
    cases h
    exact ⟨rfl, rfl⟩
  | record f base =>
    cases h
    -- telling the log leaves the disk as it is
    have hdisk : (s.step (.record f base)).disk = ((f.write base : StateM Disk _).run s.disk).2 :=
      congrArg disk (s.step_record (Prod.eta _).symm)
    exact ⟨Prod.ext rfl hdisk.symm, rfl⟩

/-- The log of a session grows by what becomes of one action. -/
theorem log_step (a : Action) : (s.step a).log = s.log.behind (s.attempt? a).toList := by
  cases a with
  | put p bytes => simp [step, attempt?, Action.file?, WriteLog.behind]
  | remove p => simp [step, attempt?, Action.file?, WriteLog.behind]
  | write f base =>
    simp [step, attempt?, Action.file?, Action.isRecorded, WriteLog.behind, Attempt.listed?]
  | record f base =>
    rcases hrun : (f.write base : StateM Disk _).run s.disk with ⟨x, d⟩
    have hattempt : s.attempt? (.record f base) = some ⟨f, base, true, x, s.disk, d⟩ := by
      rw [attempt?, s.step_record hrun]
      simp [Action.file?, Action.isRecorded, hrun]
    rw [hattempt, s.step_record hrun]
    -- a failure is listed nowhere, each of the two results in one list
    rcases x with e | _ | _ <;> simp [WriteLog.behind, WriteLog.add, Attempt.listed?, Attempt.path]

/-- The writes of a run are the actions that write, in order. -/
theorem map_attempts (actions : List Action) :
    (s.attempts actions).map (fun t => (t.file, t.base)) = actions.filterMap Action.file? := by
  induction actions generalizing s with
  | nil => rfl
  | cons a actions ih =>
    -- an action writes one file or none
    rw [attempts, List.map_append, ih, List.filterMap_cons, attempt?]
    cases a.file? <;> rfl

/-- A session goes on after its first action. -/
theorem run_cons (a : Action) (actions : List Action) :
    s.run (a :: actions) = (s.step a).run actions :=
  List.foldl_cons

/-- **The log of a run** lists the recorded writes that did not fail, each once and in order. -/
theorem log_run (actions : List Action) :
    (s.run actions).log = s.log.behind (s.attempts actions) := by
  induction actions generalizing s with
  | nil =>
    rw [attempts, WriteLog.behind]
    simp only [List.filterMap_nil, List.append_nil]
    rfl
  | cons a actions ih =>
    -- what the first action adds to the log comes in front of what the others add
    rw [run_cons, ih, log_step, attempts]
    simp only [WriteLog.behind, List.filterMap_append, List.append_assoc]

/-- Each write of a run does its part, whatever came before it. -/
theorem faithful_of_mem (actions : List Action) {t : Attempt} (ht : t ∈ s.attempts actions) :
    t.Faithful := by
  induction actions generalizing s with
  | nil => cases ht
  | cons a actions ih =>
    rw [attempts, List.mem_append, Option.mem_toList] at ht
    rcases ht with hhead | htail
    · -- the first action runs on the disk of the session as it is
      obtain ⟨hrun, hbefore⟩ := s.run_attempt? hhead
      rw [← hbefore] at hrun
      exact faithful_write t.isRecorded hrun
    · exact ih (s.step a) htail

end Session

/-- **Writing among other edits.**  In every run of edits from outside and of writes under any rules,
each write that does not fail leaves its path holding exactly what the file has to hold, and every
other file as it was; it is said to be unchanged exactly when it may be and nothing had to be done.
The log of the run lists the recorded writes that did not fail, each once, in order, by result. -/
theorem session_faithful (s : Session) (actions : List Action) :
    (s.attempts actions).map (fun t => (t.file, t.base)) = actions.filterMap Action.file?
    ∧ (∀ t ∈ s.attempts actions, t.Faithful)
    ∧ (s.run actions).log.written
      = s.log.written ++ (s.attempts actions).filterMap (·.listed? .written)
    ∧ (s.run actions).log.unchanged
      = s.log.unchanged ++ (s.attempts actions).filterMap (·.listed? .unchanged) := by
  refine ⟨s.map_attempts actions, fun t => s.faithful_of_mem actions, ?_, ?_⟩
  · rw [s.log_run]
    rfl
  · rw [s.log_run]
    rfl

end GLBindings
