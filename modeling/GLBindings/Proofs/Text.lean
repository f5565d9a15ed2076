import GLBindings.Text.Blank
import Mathlib.Data.List.DropRight
import Mathlib.Data.List.TakeWhile

namespace GLBindings.Text

/-!
# Text — white space at the ends and words in between

* `NonBlank` — a text holds more than white space; `trim_ne_empty` — then trimming leaves some;
  `nonBlank_trim`, `nonBlank_intercalate` — texts that are trimmed, and joined with spaces.
* `trimChars_trimChars`, `trim_trim` — trimming twice is trimming once.
* `Tidy`, `tidy_trim` — a text without white space at its ends, as trimming leaves it.
* `exists_eq_trimChars`, `trimChars_append` — what is trimmed off, and what is left.
* `splitAt_eq_splitOnP` — texts are cut as the library cuts lists; `splitAt_intercalate`,
  `intercalate_splitAt` — cutting and joining are inverse to each other.
* `splitAt_append_cons` — a separator separates what is on its sides.
* `splitAt_or` — splitting at two kinds of separators is splitting at one, then each piece at the
  other; `runsBetween_or` — so it is with the non-empty pieces.
* `runsBetween_append_of_beside` — a text may be cut beside a separator; `runsBetween_intercalate` —
  words that are joined with one are read back.
* `words_trimChars` — white space around a text is around its words.
* `Runs` — the maximal runs of a text, without splitting it; `runs_iff` — these are the non-empty
  pieces.
-/

/-! ### White space -/

/-- There is a character that is not white space. -/
def NonBlank (s : String) : Prop :=
  ∃ c ∈ s.toList, isBlank c = false

-- the characters of the text are tried, and not all that there are
instance (s : String) : Decidable (NonBlank s) :=
  decidable_of_iff (s.toList.any (!isBlank ·)) (by simp [NonBlank])

/-- Nothing is left of a text exactly when it is all white space. -/
theorem trimChars_eq_nil {cs : List Char} : trimChars cs = [] ↔ ∀ c ∈ cs, isBlank c = true := by
  rw [trimChars, List.reverse_eq_nil_iff, List.dropWhile_eq_nil_iff]
  constructor
  · intro h c hc
    -- a character is dropped in front, or it is left for the traversal from the end
    rw [← List.takeWhile_append_dropWhile (p := isBlank) (l := cs), List.mem_append] at hc
    rcases hc with hc | hc
    · exact List.mem_takeWhile_imp hc
    · exact h c (List.mem_reverse.mpr hc)
  · intro h c hc
    exact h c ((List.dropWhile_sublist isBlank).subset (List.mem_reverse.mp hc))

/-- A text is blank exactly if trimming leaves nothing of it. -/
theorem trim_ne_empty {s : String} : trim s ≠ "" ↔ NonBlank s := by
  have hempty : trim s = "" ↔ ∀ c ∈ s.toList, isBlank c = true := by
    rw [← trimChars_eq_nil, trim, ← String.toList_inj]
    simp
  rw [ne_eq, hempty, NonBlank]
  simp

/-- Trimming on characters. -/
theorem toList_trim (s : String) : (trim s).toList = trimChars s.toList := by
  rw [trim, String.toList_ofList]

/-- Trimming as two traversals, one from each end. -/
theorem trimChars_eq_rdropWhile (cs : List Char) :
    trimChars cs = (cs.dropWhile isBlank).rdropWhile isBlank :=
  rfl

/-- What is left begins without white space. -/
theorem head?_trimChars (cs : List Char) : ∀ c ∈ (trimChars cs).head?, isBlank c = false := by
  -- it begins like the text without the white space in front of it
  obtain ⟨rest, hrest⟩ := List.rdropWhile_prefix isBlank (cs.dropWhile isBlank)
  have hhead := List.head?_dropWhile_not isBlank cs
  rw [← hrest, ← trimChars_eq_rdropWhile] at hhead
  cases htrim : trimChars cs with
  | nil => simp
  | cons c kept =>
    rw [htrim] at hhead
    simpa using hhead

/-- What is left ends without white space. -/
theorem getLast?_trimChars (cs : List Char) : ∀ c ∈ (trimChars cs).getLast?, isBlank c = false := by
  intro c hc
  have hne : (cs.dropWhile isBlank).rdropWhile isBlank ≠ [] := by
    intro hnil
    rw [trimChars_eq_rdropWhile, hnil] at hc
    cases hc
  rw [trimChars_eq_rdropWhile, List.getLast?_eq_some_getLast hne, Option.mem_some] at hc
  rw [← hc, ← Bool.not_eq_true]
  exact List.rdropWhile_last_not isBlank _ hne

/-- Nothing is dropped in front of a character that stays. -/
theorem dropWhile_of_head? {p : Char → Bool} {cs : List Char} (h : ∀ c ∈ cs.head?, p c = false) :
    cs.dropWhile p = cs := by
  cases cs with
  | nil => rfl
  | cons c cs => exact List.dropWhile_cons_of_neg (by simp [h c rfl])

/-- Nothing is left to trim. -/
theorem trimChars_trimChars (cs : List Char) : trimChars (trimChars cs) = trimChars cs := by
  rw [trimChars_eq_rdropWhile (trimChars cs), dropWhile_of_head? (head?_trimChars cs),
    trimChars_eq_rdropWhile, List.rdropWhile_idempotent]

/-- Trimming twice is trimming once. -/
theorem trim_trim (s : String) : trim (trim s) = trim s := by
  rw [← String.toList_inj, toList_trim, toList_trim, trimChars_trimChars]

/-- Trimming takes nothing but white space. -/
theorem nonBlank_trim {s : String} : NonBlank (trim s) ↔ NonBlank s := by
  rw [← trim_ne_empty, trim_trim, trim_ne_empty]

/-- What is trimmed off a text is white space. -/
theorem exists_eq_trimChars (cs : List Char) :
    ∃ before after, cs = before ++ trimChars cs ++ after
      ∧ (∀ c ∈ before, isBlank c = true) ∧ ∀ c ∈ after, isBlank c = true := by
  refine ⟨cs.takeWhile isBlank, (cs.dropWhile isBlank).rtakeWhile isBlank, ?_, ?_, ?_⟩
  · rw [trimChars_eq_rdropWhile, List.append_assoc, List.rdropWhile_append_rtakeWhile,
      List.takeWhile_append_dropWhile]
  · exact fun c hc => List.mem_takeWhile_imp hc
  · exact fun c hc => List.mem_rtakeWhile_imp hc

/-- White space around a text that neither begins nor ends with any is trimmed off. -/
theorem trimChars_append {before kept after : List Char} (hbefore : ∀ c ∈ before, isBlank c = true)
    (hafter : ∀ c ∈ after, isBlank c = true) (hhead : ∀ c ∈ kept.head?, isBlank c = false)
    (hlast : ∀ c ∈ kept.getLast?, isBlank c = false) :
    trimChars (before ++ kept ++ after) = kept := by
  have hback : ∀ c ∈ after.reverse, isBlank c = true := fun c hc => hafter c (List.mem_reverse.mp hc)
  rw [trimChars, List.append_assoc, List.dropWhile_append_of_pos hbefore]
  cases kept with
  | nil =>
    rw [List.nil_append, List.dropWhile_eq_nil_iff.mpr hafter]
    rfl
  | cons c cs =>
    -- what is kept begins with a character that stops the traversal
    have hfront : (c :: cs ++ after).dropWhile isBlank = c :: cs ++ after :=
      dropWhile_of_head? (by simpa using hhead)
    rw [hfront, List.reverse_append, List.dropWhile_append_of_pos hback,
      dropWhile_of_head? (by rwa [List.head?_reverse]), List.reverse_reverse]

/-- A text that is not empty, and neither begins nor ends with white space. -/
structure Tidy (s : String) : Prop where
  nonempty : s ≠ ""
  head : ∀ c ∈ s.toList.head?, isBlank c = false
  last : ∀ c ∈ s.toList.getLast?, isBlank c = false

/-- What trimming leaves is tidy, if it leaves something. -/
theorem tidy_trim {s : String} (h : trim s ≠ "") : Tidy (trim s) := by
  refine ⟨h, ?_, ?_⟩
  · rw [toList_trim]
    exact head?_trimChars s.toList
  · rw [toList_trim]
    exact getLast?_trimChars s.toList

/-- A digit is not white space. -/
theorem isBlank_of_isDigit {c : Char} (h : c.isDigit = true) : isBlank c = false := by
  have hbounds : 48 ≤ c.toNat ∧ c.toNat ≤ 57 := Char.isDigit_iff_toNat.mp h
  simp only [isBlank, Bool.or_eq_false_iff, Bool.and_eq_false_iff, decide_eq_false_iff_not,
    beq_eq_false_iff_ne]
  -- no white space is in the range of the digits
  omega

/-! ### Splitting at separators -/

section Splitting

variable {sep : Char → Bool}

/-- A text is cut as the library cuts a list. -/
theorem splitAt_eq_splitOnP (sep : Char → Bool) (cs : List Char) :
    splitAt sep cs = cs.splitOnP sep := by
  induction cs with
  | nil => exact List.splitOnP_nil.symm
  | cons c cs ih =>
    rw [splitAt, List.splitOnP_cons_eq_if_modifyHead, ih]
    -- a separator begins another piece, any other character belongs to the first one
    split
    · rfl
    · cases hpieces : cs.splitOnP sep with
      | nil => exact absurd hpieces (List.splitOnP_ne_nil sep cs)
      | cons piece pieces => rfl

/-- A separator separates what is split before it from what is split behind it. -/
theorem splitAt_append_cons {c : Char} (hc : sep c = true) (before after : List Char) :
    splitAt sep (before ++ c :: after) = splitAt sep before ++ splitAt sep after := by
  simp only [splitAt_eq_splitOnP]
  exact List.splitOnP_append_cons before after hc

/-- A text without a separator is one piece. -/
theorem splitAt_of_forall {cs : List Char} (h : ∀ c ∈ cs, sep c = false) :
    splitAt sep cs = [cs] := by
  rw [splitAt_eq_splitOnP]
  exact List.splitOnP_eq_singleton h

/-- Pieces without the separator, joined with it, are cut apart again. -/
theorem splitAt_intercalate {c : Char} {pieces : List (List Char)} (hne : pieces ≠ [])
    (h : ∀ piece ∈ pieces, c ∉ piece) : splitAt (· == c) ([c].intercalate pieces) = pieces := by
  rw [splitAt_eq_splitOnP, ← List.splitOn_eq_splitOnP, List.splitOn_intercalate c h hne]

/-- The pieces, joined with the separator, are the text. -/
theorem intercalate_splitAt (c : Char) (cs : List Char) :
    [c].intercalate (splitAt (· == c) cs) = cs := by
  rw [splitAt_eq_splitOnP, ← List.splitOn_eq_splitOnP, List.intercalate_splitOn]

/-- What stands in joined pieces is the separator, or stands in a piece. -/
theorem mem_intercalate {x c : Char} {pieces : List (List Char)}
    (h : c ∈ [x].intercalate pieces) : c = x ∨ ∃ piece ∈ pieces, c ∈ piece := by
  induction pieces with
  | nil => simp at h
  | cons piece pieces ih =>
    cases pieces with
    | nil => exact .inr ⟨piece, List.mem_cons_self, by simpa using h⟩
    | cons next pieces =>
      rw [List.intercalate_cons_cons, List.mem_append, List.mem_append, List.mem_singleton] at h
      rcases h with (h | h) | h
      · exact .inr ⟨piece, List.mem_cons_self, h⟩
      · exact .inl h
      · rcases ih h with h | ⟨found, hfound, h⟩
        · exact .inl h
        · exact .inr ⟨found, List.mem_cons_of_mem piece hfound, h⟩

/-- What stands in a piece stands in the joined pieces. -/
theorem mem_intercalate_of_mem {sep piece : List Char} {pieces : List (List Char)}
    (hpiece : piece ∈ pieces) {c : Char} (hc : c ∈ piece) : c ∈ sep.intercalate pieces := by
  induction pieces with
  | nil => cases hpiece
  | cons first pieces ih =>
    cases pieces with
    | nil =>
      rw [List.intercalate_singleton, ← List.mem_singleton.mp hpiece]
      exact hc
    | cons next pieces =>
      rw [List.intercalate_cons_cons, List.mem_append, List.mem_append]
      rcases List.mem_cons.mp hpiece with rfl | hpiece
      · exact .inl (.inl hc)
      · exact .inr (ih hpiece)

/-- Texts that are joined with spaces are blank when each of them is. -/
theorem nonBlank_intercalate {ss : List String} :
    NonBlank (" ".intercalate ss) ↔ ∃ s ∈ ss, NonBlank s := by
  rw [NonBlank, String.toList_intercalate]
  constructor
  · rintro ⟨c, hc, hblank⟩
    -- what is not white space is no separator, so it stands in a piece
    rcases mem_intercalate hc with rfl | ⟨piece, hpiece, hc⟩
    · cases hblank
    · obtain ⟨s, hs, rfl⟩ := List.mem_map.mp hpiece
      exact ⟨s, hs, c, hc, hblank⟩
  · rintro ⟨s, hs, c, hc, hblank⟩
    exact ⟨c, mem_intercalate_of_mem (List.mem_map_of_mem hs) hc, hblank⟩

/-- Splitting at either of two kinds of separators. -/
theorem splitAt_or (p q : Char → Bool) (cs : List Char) :
    splitAt (fun c => p c || q c) cs = (splitAt p cs).flatMap (splitAt q) := by
  induction cs with
  | nil => rfl
  | cons c cs ih =>
    rw [splitAt, splitAt, ih]
    -- the first kind cuts here, or the second cuts the first piece, or the character stays in it
    by_cases hp : p c = true
    · simp [hp, splitAt]
    · cases hpieces : splitAt p cs with
      | nil => exact absurd hpieces (splitAt_ne_nil p cs)
      | cons piece pieces =>
        by_cases hq : q c = true
        · simp [hp, hq, splitAt]
        · cases hruns : splitAt q piece with
          | nil => exact absurd hruns (splitAt_ne_nil q piece)
          | cons run runs => simp [hp, hq, splitAt, hruns]

end Splitting

/-! ### Words -/

section Runs

variable {p : Char → Bool}

/-- To cut at either of two kinds of characters is to cut at the one and then every run at the
other. -/
theorem runsBetween_or (p q : Char → Bool) (cs : List Char) :
    runsBetween (fun c => p c || q c) cs = (runsBetween p cs).flatMap (runsBetween q) := by
  rw [runsBetween, runsBetween, splitAt_or]
  -- an empty piece has no runs
  induction splitAt p cs with
  | nil => rfl
  | cons piece pieces ih =>
    rw [List.flatMap_cons, List.filter_append, ih, List.filter_cons]
    cases piece with
    | nil => rfl
    | cons c piece => rfl

/-- A separator is between the runs on its sides. -/
theorem runsBetween_append_cons {c : Char} (hc : p c = true) (before after : List Char) :
    runsBetween p (before ++ c :: after) = runsBetween p before ++ runsBetween p after := by
  rw [runsBetween, splitAt_append_cons hc, List.filter_append]
  rfl

/-- A separator in front separates nothing. -/
theorem runsBetween_cons {c : Char} (hc : p c = true) (cs : List Char) :
    runsBetween p (c :: cs) = runsBetween p cs :=
  runsBetween_append_cons hc [] cs

/-- A text without a separator is one run, if it is not empty. -/
theorem runsBetween_of_forall {run : List Char} (hne : run ≠ []) (h : ∀ c ∈ run, p c = false) :
    runsBetween p run = [run] := by
  rw [runsBetween, splitAt_of_forall h]
  simp [hne]

/-- Separators have no runs. -/
theorem runsBetween_separators {seps : List Char} (h : ∀ c ∈ seps, p c = true) :
    runsBetween p seps = [] := by
  induction seps with
  | nil => rfl
  | cons c seps ih =>
    rw [runsBetween_cons (h c List.mem_cons_self), ih fun d hd => h d (List.mem_cons_of_mem c hd)]

/-- Words joined by a separator are read back as its runs. -/
theorem runsBetween_intercalate {c : Char} (hc : p c = true) {ws : List (List Char)}
    (hne : ∀ w ∈ ws, w ≠ []) (h : ∀ w ∈ ws, ∀ d ∈ w, p d = false) :
    runsBetween p ([c].intercalate ws) = ws := by
  induction ws with
  | nil => rfl
  | cons w ws ih =>
    have hfirst : runsBetween p w = [w] :=
      runsBetween_of_forall (hne w List.mem_cons_self) (h w List.mem_cons_self)
    cases ws with
    | nil => rw [List.intercalate_singleton, hfirst]
    | cons v ws =>
      -- the first word is a run of its own, the others by induction
      have hrest := ih (fun u hu => hne u (List.mem_cons_of_mem w hu))
        fun u hu => h u (List.mem_cons_of_mem w hu)
      rw [List.intercalate_cons_cons, List.append_assoc, List.singleton_append,
        runsBetween_append_cons hc, hfirst, hrest, List.singleton_append]

/-- Separators behind a text are behind its runs. -/
theorem runsBetween_append {seps : List Char} (h : ∀ c ∈ seps, p c = true) (cs : List Char) :
    runsBetween p (cs ++ seps) = runsBetween p cs := by
  cases seps with
  | nil => rw [List.append_nil]
  | cons c seps =>
    have hrest : runsBetween p seps = [] :=
      runsBetween_separators fun d hd => h d (List.mem_cons_of_mem c hd)
    rw [runsBetween_append_cons (h c List.mem_cons_self), hrest, List.append_nil]

/-- A text may be cut beside a separator: the runs stay the same. -/
theorem runsBetween_append_of_beside {before after : List Char}
    (h : ∀ c ∈ before.getLast?, ∀ d ∈ after.head?, p c = true ∨ p d = true) :
    runsBetween p (before ++ after) = runsBetween p before ++ runsBetween p after := by
  rcases before.eq_nil_or_concat with rfl | ⟨front, c, rfl⟩
  · rfl
  · cases after with
    | nil =>
      rw [List.append_nil]
      exact (List.append_nil _).symm
    | cons d after =>
      have hbeside : p c = true ∨ p d = true := h c (by simp) d rfl
      rcases hbeside with hc | hd
      · have hfront : runsBetween p (front ++ [c]) = runsBetween p front :=
          runsBetween_append (by simpa using hc) front
        rw [List.concat_eq_append, List.append_assoc, List.singleton_append,
          runsBetween_append_cons hc, hfront]
      · rw [runsBetween_append_cons hd, runsBetween_cons hd]

/-- What is lost are the separators. -/
theorem flatten_runsBetween (cs : List Char) :
    (runsBetween p cs).flatten = cs.filter (!p ·) := by
  rw [runsBetween, List.flatten_filter_ne_nil]
  induction cs with
  | nil => rfl
  | cons c cs ih =>
    rw [splitAt]
    by_cases hc : p c = true
    · rw [if_pos hc, List.filter_cons_of_neg (by simp [hc]), ← ih]
      rfl
    · rw [if_neg hc, List.filter_cons_of_pos (by simp [hc]), ← ih]
      cases splitAt p cs with
      | nil => rfl
      | cons piece pieces => rfl

/-- Trimming does not change the words. -/
theorem words_trimChars (cs : List Char) : words (trimChars cs) = words cs := by
  obtain ⟨before, after, hcs, hbefore, hafter⟩ := exists_eq_trimChars cs
  have hfront : words (before ++ trimChars cs) = words before ++ words (trimChars cs) :=
    runsBetween_append_of_beside fun c hc _ _ => .inl (hbefore c (List.mem_of_mem_getLast? hc))
  have hnone : words before = [] := runsBetween_separators hbefore
  calc words (trimChars cs) = words (before ++ trimChars cs) := by rw [hfront, hnone, List.nil_append]
    _ = words (before ++ trimChars cs ++ after) := (runsBetween_append hafter _).symm
    _ = words cs := by rw [← hcs]

/-! ### Maximal runs -/

/-- The maximal runs of a text without separators, in order: separators are in front of each run,
and one of them ends it, unless the text ends there. -/
inductive Runs (sep : Char → Bool) : List Char → List (List Char) → Prop
  | nil {gap : List Char} (hgap : ∀ c ∈ gap, sep c = true) : Runs sep gap []
  | cons {gap run rest : List Char} {runs : List (List Char)} (hgap : ∀ c ∈ gap, sep c = true)
      (hne : run ≠ []) (hrun : ∀ c ∈ run, sep c = false) (hend : ∀ c ∈ rest.head?, sep c = true)
      (h : Runs sep rest runs) : Runs sep (gap ++ run ++ rest) (run :: runs)

/-- The runs of a text are determined by it. -/
theorem Runs.eq_runsBetween {cs : List Char} {runs : List (List Char)} (h : Runs p cs runs) :
    runs = runsBetween p cs := by
  induction h with
  | nil hgap => exact (runsBetween_separators hgap).symm
  | @cons gap run rest runs hgap hne hrun hend h ih =>
    -- the run is cut off beside what is around it
    rw [List.append_assoc, runsBetween_append_of_beside, runsBetween_append_of_beside, ← ih,
      runsBetween_separators hgap, runsBetween_of_forall hne hrun]
    · rfl
    · exact fun c _ d hd => .inr (hend d hd)
    · exact fun c hc _ _ => .inl (hgap c (List.mem_of_mem_getLast? hc))

/-- A run is not empty and holds no separator. -/
theorem Runs.of_mem {cs : List Char} {runs : List (List Char)} (h : Runs p cs runs)
    {run : List Char} (hrun : run ∈ runs) : run ≠ [] ∧ ∀ c ∈ run, p c = false := by
  induction h with
  | nil => cases hrun
  | cons _ hne hinner _ _ ih =>
    rcases List.mem_cons.mp hrun with rfl | hrun
    · exact ⟨hne, hinner⟩
    · exact ih hrun

/-- A character in front of a text begins a run, or it is a separator, or it goes on with a run. -/
theorem exists_runs (cs : List Char) : ∃ runs, Runs p cs runs := by
  induction cs with
  | nil => exact ⟨[], .nil (by simp)⟩
  | cons c cs ih =>
    obtain ⟨runs, hruns⟩ := ih
    have hnone : ∀ d ∈ ([] : List Char), p d = true := by simp
    have hbegins (hc : p c = false) (hend : ∀ d ∈ cs.head?, p d = true) :
        Runs p (c :: cs) ([c] :: runs) :=
      .cons hnone (List.cons_ne_nil c []) (by simpa using hc) hend hruns
    by_cases hc : p c = true
    · cases hruns with
      | nil hgap => exact ⟨_, .nil (List.forall_mem_cons.mpr ⟨hc, hgap⟩)⟩
      | cons hgap hne hrun hend h =>
        exact ⟨_, .cons (List.forall_mem_cons.mpr ⟨hc, hgap⟩) hne hrun hend h⟩
    · rw [Bool.not_eq_true] at hc
      -- behind a character that is no separator, the first run may begin at once or later
      cases hruns with
      | nil hgap => exact ⟨_, hbegins hc fun d hd => hgap d (List.mem_of_mem_head? hd)⟩
      | @cons gap run rest _ hgap hne hrun hend h =>
        cases gap with
        | nil =>
          exact ⟨_, .cons hnone (List.cons_ne_nil c run) (List.forall_mem_cons.mpr ⟨hc, hrun⟩) hend h⟩
        | cons d gap =>
          exact ⟨_, hbegins hc (by simpa using hgap d List.mem_cons_self)⟩

/-- **Maximal runs.**  The non-empty pieces between separators are the maximal runs without any. -/
theorem runs_iff {cs : List Char} {runs : List (List Char)} :
    Runs p cs runs ↔ runs = runsBetween p cs := by
  refine ⟨Runs.eq_runsBetween, ?_⟩
  rintro rfl
  obtain ⟨runs, h⟩ := exists_runs (p := p) cs
  rwa [← h.eq_runsBetween]

end Runs

end GLBindings.Text
