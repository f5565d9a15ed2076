import GLBindings.FileSystem
import GLBindings.Proofs.Text

namespace GLBindings

/-!
# Path — joining paths

A path may be joined piece by piece to a base directory, or made first and joined to the base in
the end.  Absolute pieces, empty ones and slashes at an end all make no difference to that.

* `join_assoc` — joining is associative.
* `joinAll_eq_join` — a path below a base is the base joined with the path below nothing.
* `getLast?_pieces_join` — a name stays the last piece of a path that it is joined to.
-/

namespace Path

/-! ### Joining -/

/-- What stands before a relative path that is joined to a base. -/
def under (base : List Char) : List Char :=
  if base = [] || base.getLast? == some '/' then base else base ++ ['/']

/-- An absolute path replaces what it is joined to. -/
theorem joinChars_of_absolute {base child : List Char} (h : isAbsolute child = true) :
    joinChars base child = child := by
  rw [joinChars, if_pos h]

/-- A relative path goes behind what it is joined to, with a separator if one is missing. -/
theorem joinChars_of_relative {base child : List Char} (h : isAbsolute child = false) :
    joinChars base child = under base ++ child := by
  rw [joinChars, h, under]
  split
  · rename_i hfalse
    cases hfalse
  · -- a separator is only added where one is missing
    split
    · rfl
    · rw [List.append_assoc, List.singleton_append]

/-- What stands before is nothing, or ends in a slash. -/
theorem under_eq (base : List Char) : under base = [] ∨ ∃ before, under base = before ++ ['/'] := by
  rw [under]
  split
  · rename_i h
    by_cases hnil : base = []
    · exact .inl hnil
    · have hslash : base.getLast? = some '/' := by simpa [hnil] using h
      exact .inr (List.getLast?_eq_some_iff.mp hslash)
  · exact .inr ⟨base, rfl⟩

/-- A separator is supplied at the end of a text only, so supplying it piece by piece comes to the
same. -/
theorem under_append (a b : List Char) : under (under a ++ b) = under a ++ under b := by
  by_cases hb : b = []
  · -- what ends in a slash already gets no other one
    subst hb
    rw [List.append_nil, show under [] = [] from rfl, List.append_nil]
    rcases under_eq a with h | ⟨before, h⟩
    · rw [h]
      rfl
    · rw [h, under, if_pos (by simp)]
  · have hlast : (under a ++ b).getLast? = b.getLast? := by
      rw [List.getLast?_append]
      cases h : b.getLast? with
      | none => exact absurd (List.getLast?_eq_none_iff.mp h) hb
      | some c => rfl
    rw [under, under.eq_1 b, hlast]
    by_cases hslash : (b.getLast? == some '/') = true
    · rw [if_pos (by simp [hslash]), if_pos (by simp [hslash])]
    · rw [if_neg (by simp [hslash, hb]), if_neg (by simp [hslash, hb]), List.append_assoc]

/-- A relative path stays relative under an empty base, and otherwise is as the base is. -/
theorem isAbsolute_under_append (b : List Char) {c : List Char} (hc : isAbsolute c = false) :
    isAbsolute (under b ++ c) = isAbsolute b := by
  cases b with
  | nil => exact hc
  | cons d b =>
    rw [under]
    split <;> rfl

/-- Joining is associative: on characters, where the absolute and the relative case can be told
apart by the first one. -/
theorem joinChars_assoc (a b c : List Char) :
    joinChars (joinChars a b) c = joinChars a (joinChars b c) := by
  -- an absolute path replaces whatever it is joined to: first `c`, then `b`
  by_cases hc : isAbsolute c = true
  · rw [joinChars_of_absolute hc, joinChars_of_absolute hc, joinChars_of_absolute hc]
  rw [Bool.not_eq_true] at hc
  rw [joinChars_of_relative hc, joinChars_of_relative hc]
  have habs := isAbsolute_under_append b hc
  by_cases hb : isAbsolute b = true
  · rw [joinChars_of_absolute hb, joinChars_of_absolute (habs.trans hb)]
  · rw [Bool.not_eq_true] at hb
    rw [joinChars_of_relative hb, joinChars_of_relative (habs.trans hb), under_append,
      List.append_assoc]

/-- **Joining is associative**, whichever of the paths are absolute, empty or end in a slash. -/
theorem join_assoc (a b c : Path) : join (join a b) c = join a (join b c) := by
  simp only [join, String.toList_ofList, joinChars_assoc]

/-- The empty path is a unit on the left; it is none on the right, where it supplies a separator. -/
theorem empty_join (p : Path) : join "" p = p := by
  rw [join]
  by_cases h : isAbsolute p.toList = true
  · rw [joinChars_of_absolute h, String.ofList_toList]
  · rw [joinChars_of_relative (by simpa using h)]
    exact String.ofList_toList

/-- A path below a base is the base joined with the path below nothing. -/
theorem joinAll_eq_join (base : Path) {segments : List String} (h : segments ≠ []) :
    joinAll base segments = join base (joinAll "" segments) := by
  cases segments with
  | nil => exact absurd rfl h
  | cons s rest =>
    -- by associativity the base can be split off in front of all joins
    have hfold : ∀ (more : List String) (p : Path),
        more.foldl join (join base p) = join base (more.foldl join p) := by
      intro more
      induction more with
      | nil => exact fun p => rfl
      | cons m more ih =>
        intro p
        rw [List.foldl_cons, List.foldl_cons, join_assoc, ih]
    rw [joinAll, joinAll, List.foldl_cons, List.foldl_cons, empty_join, hfold]

/-- The last segment is joined to the path of the others. -/
theorem joinAll_concat (base : Path) (segments : List String) (name : String) :
    joinAll base (segments ++ [name]) = join (joinAll base segments) name := by
  rw [joinAll, List.foldl_append]
  rfl

/-! ### The last piece -/

/-- A name without a slash is the last piece of every path that it is joined to. -/
theorem getLast?_pieces_join (base : Path) {name : String} (h : '/' ∉ name.toList) :
    (pieces (join base name)).getLast? = some name := by
  have hplain : ∀ c ∈ name.toList, (c == '/') = false := by
    intro c hc
    have hne : c ≠ '/' := fun e => h (e ▸ hc)
    simpa using hne
  -- a name without a slash is not absolute
  have hrel : isAbsolute name.toList = false := by
    rw [isAbsolute, Bool.eq_false_iff]
    intro habs
    exact h (List.mem_of_mem_head? (beq_iff_eq.mp habs))
  rw [pieces, join, String.toList_ofList, joinChars_of_relative hrel]
  rcases under_eq base.toList with hnil | ⟨before, hbefore⟩
  · -- the name is the only piece
    rw [hnil, List.nil_append, Text.splitAt_of_forall hplain]
    simp
  · -- a slash stands before the name
    rw [hbefore, List.append_assoc, List.singleton_append, Text.splitAt_append_cons (by simp),
      Text.splitAt_of_forall hplain]
    simp

end Path

end GLBindings
