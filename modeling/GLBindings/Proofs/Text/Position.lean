import GLBindings.Registry.Error
import Mathlib.Data.List.DropRight

namespace GLBindings.Text

/-!
# Positions — rows and columns lead back to their bytes

Whoever reads a text from its start counts line feeds, characters since the last one, and bytes.  An
error carries the first two numbers, and the third is found again from them.

* `placeBehind`, `advance_start` — row and column behind some characters, and that a reader who moves
  over them arrives there.
* `lineSpans_append`, `length_lineSpans` — cutting into lines goes on behind a line feed, and there is
  a line for each.
* `take_chomp` — what ends a line is behind the characters of the line.
* `byteOffset_placeBehind`, `byteOffset_lt` — the offset of a place that a reader was at, and of any.
* `byteOffset_spec` — both, and where the span of an error is.
-/

/-! ### Places that a reader comes to -/

/-- Row and column behind some characters: a row for each line feed, a column for each character since
the last of them. -/
def placeBehind (cs : List Char) : Place :=
  ⟨1 + cs.count '\n', 1 + (cs.rtakeWhile (· != '\n')).length⟩

/-- Lengths in bytes add up. -/
theorem byteLength_append (cs ds : List Char) :
    byteLength (cs ++ ds) = byteLength cs + byteLength ds := by
  induction cs with
  | nil => exact (Nat.zero_add _).symm
  | cons c cs ih =>
    show c.utf8Size + byteLength (cs ++ ds) = c.utf8Size + byteLength cs + byteLength ds
    rw [ih, Nat.add_assoc]

/-- The length counted character by character is the one of the encoded text. -/
theorem byteLength_toList (s : String) : byteLength s.toList = s.utf8ByteSize := by
  have hsize : ∀ cs : List Char, byteLength cs = (String.ofList cs).utf8ByteSize := by
    intro cs
    induction cs with
    | nil => rfl
    | cons c cs ih =>
      rw [String.ofList_cons, String.utf8ByteSize_append, String.utf8ByteSize_singleton, ← ih]
      rfl
  rw [hsize, String.ofList_toList]

/-- A reader who moves over the characters counts so. -/
theorem advance_start (cs : List Char) :
    Position.start.advance cs = ⟨placeBehind cs, byteLength cs⟩ := by
  induction cs using List.reverseRecOn with
  | nil => rfl
  | append_singleton cs c ih =>
    have hstep : Position.start.advance (cs ++ [c]) = (Position.start.advance cs).step c :=
      List.foldl_concat _ _ _ _
    rw [hstep, ih, byteLength_append, Position.step, placeBehind, placeBehind]
    -- a line feed begins a row, any other character only moves on in its row
    by_cases hc : c = '\n'
    · rw [if_pos hc, List.rtakeWhile_concat_neg _ _ _ (by simp [hc]), hc]
      simp [byteLength, Nat.add_assoc]
    · rw [if_neg hc, List.rtakeWhile_concat_pos _ _ _ (by simp [hc])]
      simp [byteLength, Nat.add_assoc, hc]

/-! ### Lines -/

section Lines

variable {front line more : List Char} {c : Char}

/-- A text that is not empty has a line. -/
theorem lineSpans_ne_nil (h : front ≠ []) : lineSpans front ≠ [] := by
  intro hnil
  have hflat := lineSpans_flatten front
  rw [hnil] at hflat
  exact h hflat.symm

/-- A line feed in front is a line of its own. -/
theorem lineSpans_lineFeed (cs : List Char) : lineSpans ('\n' :: cs) = ['\n'] :: lineSpans cs := by
  rw [lineSpans, if_pos rfl]

/-- Any other character goes into the line of what is behind it. -/
theorem lineSpans_cons {first cs : List Char} {spans : List (List Char)} (hc : c ≠ '\n')
    (h : lineSpans cs = first :: spans) : lineSpans (c :: cs) = (c :: first) :: spans := by
  rw [lineSpans, if_neg hc, h]

/-- Behind a line feed cutting begins anew. -/
theorem lineSpans_append (front rest : List Char) :
    lineSpans (front ++ '\n' :: rest) = lineSpans (front ++ ['\n']) ++ lineSpans rest := by
  induction front with
  | nil => rw [List.nil_append, List.nil_append, lineSpans_lineFeed, lineSpans_lineFeed]; rfl
  | cons c front ih =>
    rw [List.cons_append, List.cons_append]
    by_cases hc : c = '\n'
    · rw [hc, lineSpans_lineFeed, lineSpans_lineFeed, ih]
      rfl
    · -- any other character goes into the first line on both sides
      cases hspans : lineSpans (front ++ ['\n']) with
      | nil => exact absurd hspans (lineSpans_ne_nil (by simp))
      | cons first spans =>
        rw [hspans] at ih
        rw [lineSpans_cons hc hspans, lineSpans_cons hc ih]
        rfl

/-- There is a line for each line feed. -/
theorem length_lineSpans (front : List Char) :
    (lineSpans (front ++ ['\n'])).length = front.count '\n' + 1 := by
  induction front with
  | nil => rfl
  | cons c front ih =>
    rw [List.cons_append]
    by_cases hc : c = '\n'
    · rw [hc, lineSpans_lineFeed, List.length_cons, ih, List.count_cons_self]
    · cases hspans : lineSpans (front ++ ['\n']) with
      | nil => exact absurd hspans (lineSpans_ne_nil (by simp))
      | cons first spans =>
        rw [hspans] at ih
        rw [lineSpans_cons hc hspans, List.count_cons_of_ne hc, ← ih]
        rfl

/-- Whole lines are cut off from what is behind them, one for each line feed. -/
theorem lineSpans_of_lines (h : front = [] ∨ ∃ init, front = init ++ ['\n']) (rest : List Char) :
    lineSpans (front ++ rest) = lineSpans front ++ lineSpans rest
      ∧ (lineSpans front).length = front.count '\n' := by
  rcases h with rfl | ⟨init, rfl⟩
  · exact ⟨rfl, rfl⟩
  · refine ⟨?_, ?_⟩
    · rw [List.append_assoc, List.singleton_append, lineSpans_append]
    · rw [length_lineSpans, List.count_append, List.count_singleton_self]

/-- The first line goes on from its characters without a line feed to the one behind them. -/
theorem head?_lineSpans (hline : '\n' ∉ line) (c : Char) (rest : List Char) :
    ∃ more, (lineSpans (line ++ c :: rest)).head? = some (line ++ c :: more) := by
  induction line with
  | nil =>
    rw [List.nil_append, lineSpans]
    -- the line ends with the character, or goes on behind it
    by_cases hc : c = '\n'
    · exact ⟨[], by rw [if_pos hc]; rfl⟩
    · rw [if_neg hc]
      cases lineSpans rest with
      | nil => exact ⟨[], rfl⟩
      | cons first spans => exact ⟨first, rfl⟩
  | cons d line ih =>
    have hd : d ≠ '\n' := fun e => hline (e ▸ List.mem_cons_self)
    obtain ⟨more, hmore⟩ := ih fun hmem => hline (List.mem_cons_of_mem d hmem)
    refine ⟨more, ?_⟩
    cases hspans : lineSpans (line ++ c :: rest) with
    | nil =>
      rw [hspans] at hmore
      cases hmore
    | cons first spans =>
      rw [hspans] at hmore
      obtain rfl := Option.some.inj hmore
      rw [List.cons_append, lineSpans_cons hd hspans]
      rfl

/-- What is taken off a line is what ends it. -/
theorem exists_eq_chomp (line : List Char) :
    ∃ ending ∈ [[], ['\n'], ['\r', '\n']], line = chomp line ++ ending := by
  unfold chomp
  split
  case h_1 rest hrev =>
    exact ⟨['\r', '\n'], by simp, by simpa using congrArg List.reverse hrev⟩
  case h_2 rest _ hrev =>
    exact ⟨['\n'], by simp, by simpa using congrArg List.reverse hrev⟩
  case h_3 => exact ⟨[], by simp, (List.append_nil line).symm⟩

/-- The characters of a line in front of some character are still there when its ending is taken off,
unless the character is a line feed with a carriage return in front of it. -/
theorem take_chomp (h : ¬ (line.getLast? = some '\r' ∧ c = '\n')) (more : List Char) :
    (chomp (line ++ c :: more)).take line.length = line := by
  obtain ⟨ending, hending, hsplit⟩ := exists_eq_chomp (line ++ c :: more)
  have hprefix : chomp (line ++ c :: more) <+: line ++ c :: more := ⟨ending, hsplit.symm⟩
  -- no character of the line is taken off with its ending
  have hlength := congrArg List.length hsplit
  simp only [List.length_append, List.length_cons] at hlength
  have hle : line.length ≤ (chomp (line ++ c :: more)).length := by
    simp only [List.mem_cons, List.not_mem_nil, or_false] at hending
    rcases hending with rfl | rfl | rfl
    · simp only [List.length_nil] at hlength
      omega
    · simp only [List.length_cons, List.length_nil] at hlength
      omega
    · simp only [List.length_cons, List.length_nil] at hlength
      cases more with
      | cons d more =>
        simp only [List.length_cons] at hlength
        omega
      | nil =>
        -- the carriage return would be the last character in front of the line feed
        exfalso
        have hends : line ++ [c] = (chomp (line ++ [c]) ++ ['\r']) ++ ['\n'] := by
          rw [List.append_assoc]
          exact hsplit
        obtain ⟨hline, hc⟩ := List.append_inj' hends rfl
        refine h ⟨?_, (List.cons.inj hc).1⟩
        rw [hline, List.getLast?_concat]
  exact ((List.prefix_iff_eq_take.mp
    (List.prefix_of_prefix_length_le (List.prefix_append _ _) hprefix hle))).symm

end Lines

/-! ### Offsets -/

/-- A text up to some character is whole lines, and what its last line has before the character. -/
theorem exists_lines (cs : List Char) :
    ∃ front line, cs = front ++ line ∧ '\n' ∉ line ∧ (front = [] ∨ ∃ init, front = init ++ ['\n'])
      ∧ placeBehind cs = ⟨1 + front.count '\n', 1 + line.length⟩ := by
  have hline : '\n' ∉ cs.rtakeWhile (· != '\n') := by
    intro hmem
    simpa using List.mem_rtakeWhile_imp hmem
  refine ⟨cs.rdropWhile (· != '\n'), cs.rtakeWhile (· != '\n'),
    List.rdropWhile_append_rtakeWhile.symm, hline, ?_, ?_⟩
  · by_cases hnil : cs.rdropWhile (· != '\n') = []
    · exact .inl hnil
    · refine .inr ⟨(cs.rdropWhile (· != '\n')).dropLast, ?_⟩
      -- what is in front of the last line ends in a line feed
      have hlast : (cs.rdropWhile (· != '\n')).getLast hnil = '\n' := by
        simpa using List.rdropWhile_last_not (· != '\n') cs hnil
      have hsplit := List.dropLast_append_getLast hnil
      rw [hlast] at hsplit
      exact hsplit.symm
  · have hcount : cs.count '\n' = (cs.rdropWhile (· != '\n')).count '\n' := by
      conv_lhs => rw [← List.rdropWhile_append_rtakeWhile (p := (· != '\n')) (l := cs)]
      rw [List.count_append, List.count_eq_zero.mpr hline, Nat.add_zero]
    rw [placeBehind, hcount]

/-- **The way back.**  A place in front of a character leads to the bytes before it. -/
theorem byteOffset_placeBehind {before after : String} (hafter : after ≠ "")
    (hend : ¬ (before.toList.getLast? = some '\r' ∧ after.toList.head? = some '\n')) :
    byteOffset (before ++ after) (placeBehind before.toList) = before.utf8ByteSize := by
  obtain ⟨front, line, hbefore, hline, hfront, hplace⟩ := exists_lines before.toList
  obtain ⟨c, rest, hrest⟩ := List.exists_cons_of_ne_nil (mt String.toList_eq_nil_iff.mp hafter)
  have htext : (before ++ after).toList = front ++ (line ++ c :: rest) := by
    rw [String.toList_append, hbefore, hrest, List.append_assoc]
  -- the row picks the whole lines, and the column the characters of the last one
  obtain ⟨hspans, hlength⟩ := lineSpans_of_lines hfront (line ++ c :: rest)
  obtain ⟨more, hmore⟩ := head?_lineSpans hline c rest
  have hkept : (chomp (line ++ c :: more)).take line.length = line := by
    refine take_chomp (fun hcut => hend ⟨?_, ?_⟩) more
    · rw [hbefore, List.getLast?_append, hcut.1, Option.some_or]
    · rw [hrest, List.head?_cons, hcut.2]
  have hsize : before.utf8ByteSize = byteLength front + byteLength line := by
    rw [← byteLength_toList, hbefore, byteLength_append]
  -- there is more to come, so the offset is not cut down to the end of the text
  have hpos : 0 < after.utf8ByteSize :=
    Nat.pos_of_ne_zero (mt String.utf8ByteSize_eq_zero_iff.mp hafter)
  unfold byteOffset
  simp only [hplace, Nat.add_sub_cancel_left, htext, hspans]
  rw [List.take_left' hlength, List.drop_left' hlength, lineSpans_flatten, hmore, Option.map_some,
    Option.getD_some, hkept, ← hsize, String.utf8ByteSize_append]
  omega

/-- No offset is behind the text. -/
theorem byteOffset_lt {src : String} (h : src ≠ "") (place : Place) :
    byteOffset src place < src.utf8ByteSize := by
  have hsize : 0 < src.utf8ByteSize := Nat.pos_of_ne_zero (mt String.utf8ByteSize_eq_zero_iff.mp h)
  exact lt_of_le_of_lt (Nat.min_le_right _ _) (Nat.sub_lt hsize Nat.one_pos)

/-- **Rows and columns lead back to their bytes.**  A reader who has moved over the first part of a
text, with more to come, is at a row and a column that lead back to that offset; the one exception
is a place between a carriage return and its line feed.  Whatever row and column are asked for, the
offset is inside a text that is not empty, and so is the byte that an error points at. -/
theorem byteOffset_spec :
    (∀ before after : String, after ≠ "" →
      ¬ (before.toList.getLast? = some '\r' ∧ after.toList.head? = some '\n') →
      ∃ place : Place, place.row = 1 + before.toList.count '\n'
        ∧ place.col = 1 + (before.toList.rtakeWhile (· != '\n')).length
        ∧ Position.start.advance before.toList = ⟨place, before.utf8ByteSize⟩
        ∧ byteOffset (before ++ after) place = before.utf8ByteSize)
    ∧ ∀ src : String, src ≠ "" →
      (∀ place, byteOffset src place < src.utf8ByteSize)
      ∧ ∀ (file : String) (e : Xml.Error), ∃ span : Span,
        RegistryError.ofXml file src e = .invalidXml file span e ∧ span.length = 1
          ∧ span.start + span.length ≤ src.utf8ByteSize := by
  refine ⟨fun before after hafter hend => ?_, fun src hsrc => ⟨byteOffset_lt hsrc, fun file e => ?_⟩⟩
  · refine ⟨placeBehind before.toList, rfl, rfl, ?_, byteOffset_placeBehind hafter hend⟩
    rw [advance_start, byteLength_toList]
  · exact ⟨⟨byteOffset src e.place, 1⟩, rfl, rfl, byteOffset_lt hsrc e.place⟩

/-- Characters of several bytes behind an empty line. -/
theorem byteOffset_spec_multibyte :
    byteOffset "é\r\n\n€x\n" ⟨3, 2⟩ = 8
      ∧ byteOffset "é\r\n\n€x\n" ⟨7, 0⟩ < "é\r\n\n€x\n".utf8ByteSize := by
  obtain ⟨hback, hinside⟩ := byteOffset_spec
  obtain ⟨place, hrow, hcol, -, hoffset⟩ := hback "é\r\n\n€" "x\n" (by decide) (by decide)
  have hplace : place = ⟨3, 2⟩ := by
    cases place
    rw [Place.mk.injEq]
    exact ⟨hrow, hcol⟩
  rw [hplace] at hoffset
  exact ⟨hoffset, (hinside "é\r\n\n€x\n" (by decide)).1 ⟨7, 0⟩⟩

end GLBindings.Text
