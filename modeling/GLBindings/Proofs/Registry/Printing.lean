import GLBindings.Emission.Declarations
import GLBindings.Proofs.Registry.MixedContent

namespace GLBindings

open GLBindings.Text
open GLBindings.Xml (Element Node)

/-!
# Printing — declarations of C, read back

The code that is written declares a parameter as `const GLchar **string`, and a registry declares it
in mixed content.  This file puts what is written into an element and reads it: it comes back as it
was, whatever the words of its base type are.

* `IsTypeWord`, `IsPlainType` — base types that consist of words; `isPlainType_iff` — they can be told
  by cutting them.
* `wordsOf_declaration`, `starsOf_declaration` — what a scan finds in a printed declaration.
* `Prints` — an element whose text in front of the name is a printed declaration; `printed` — the
  children of the least such element.
* `ofElement_of_prints` — what such an element is read as.
* `printed_read_back` — printing and reading, in both orders.
-/

namespace Parameter

open Declaration

/-! ### Base types -/

/-- A word of a base type, which a scan takes for one word and not for `const`. -/
structure IsTypeWord (w : List Char) : Prop where
  ne_nil : w ≠ []
  inner : ∀ c ∈ w, isSeparator c = false
  ne_const : w ≠ "const".toList

/-- A base type that consists of one or more words with single spaces between them. -/
def IsPlainType (base : String) : Prop :=
  ∃ ws, ws ≠ [] ∧ (∀ w ∈ ws, IsTypeWord w) ∧ base.toList = [' '].intercalate ws

/-- The words of a plain type are those that a scan finds. -/
theorem wordsOf_eq {base : String} {ws : List (List Char)} (hws : ∀ w ∈ ws, IsTypeWord w)
    (hbase : base.toList = [' '].intercalate ws) : wordsOf base = ws := by
  rw [wordsOf, hbase]
  exact runsBetween_intercalate rfl (fun w hw => (hws w hw).ne_nil) fun w hw => (hws w hw).inner

/-- A type consists of words when it is joined from the words that a scan finds, of which there is
one, and none is `const`. -/
theorem isPlainType_iff {base : String} :
    IsPlainType base ↔ wordsOf base ≠ [] ∧ "const".toList ∉ wordsOf base
      ∧ base.toList = [' '].intercalate (wordsOf base) := by
  constructor
  · rintro ⟨ws, hne, hws, hbase⟩
    rw [wordsOf_eq hws hbase]
    exact ⟨hne, fun hconst => (hws _ hconst).ne_const rfl, hbase⟩
  · rintro ⟨hne, hconst, hbase⟩
    refine ⟨wordsOf base, hne, fun w hw => ?_, hbase⟩
    obtain ⟨hword, hinner⟩ := (runs_wordsOf base).of_mem hw
    exact ⟨hword, hinner, fun h => hconst (h ▸ hw)⟩

instance (base : String) : Decidable (IsPlainType base) :=
  decidable_of_iff _ isPlainType_iff.symm

/-! ### Scanning a printed declaration -/

/-- A type printed without a name: its asterisks stand behind one space. -/
theorem toList_declaration (isConst : Bool) (base : String) (n : Nat) :
    (Code.declaration isConst base n "").toList
      = (Code.constness isConst).toList ++ base.toList ++ ' ' :: List.replicate n '*' := by
  rw [Code.declaration, Code.stars]
  simp [String.toList_append]

/-- The words of a printed declaration are `const` and those of the base type. -/
theorem wordsOf_declaration (isConst : Bool) (base : String) (n : Nat) :
    wordsOf (Code.declaration isConst base n "")
      = (if isConst then ["const".toList] else []) ++ wordsOf base := by
  -- what is behind the base type only separates
  have hbehind : ∀ c ∈ ' ' :: List.replicate n '*', isSeparator c = true := by
    intro c hc
    rcases List.mem_cons.mp hc with rfl | hc
    · rfl
    · rw [List.eq_of_mem_replicate hc]
      rfl
  have hconst : runsBetween isSeparator "const".toList = ["const".toList] := by decide
  rw [wordsOf, toList_declaration]
  show runsBetween isSeparator _ = _
  rw [runsBetween_append hbehind]
  -- the qualifier is a word for itself, since a space is behind it
  cases isConst with
  | false => rfl
  | true =>
    have htext : (Code.constness true).toList ++ base.toList
        = "const".toList ++ ' ' :: base.toList := rfl
    rw [htext, runsBetween_append_cons rfl, hconst]
    rfl

/-- The asterisks of a printed declaration are those behind the base type. -/
theorem starsOf_declaration (isConst : Bool) {base : String} (hbase : IsPlainType base) (n : Nat) :
    starsOf (Code.declaration isConst base n "") = n := by
  obtain ⟨ws, -, hws, hbase⟩ := hbase
  -- the base type consists of words, which have no asterisks
  have hnone : '*' ∉ base.toList := by
    intro hstar
    rw [hbase] at hstar
    rcases mem_intercalate hstar with hstar | ⟨w, hw, hstar⟩
    · cases hstar
    · exact absurd ((hws w hw).inner _ hstar) (by decide)
  -- nor has the qualifier
  have hconst : List.count '*' (Code.constness isConst).toList = 0 := by
    cases isConst <;> decide
  rw [starsOf, toList_declaration, List.count_append, List.count_append, hconst,
    List.count_eq_zero.mpr hnone, List.count_cons_of_ne (by decide), List.count_replicate_self]
  omega

/-! ### Reading a printed parameter -/

/-- In front of the name there is a printed declaration, and nothing else says anything. -/
structure Prints (e : Element) (isConst : Bool) (base : String) (indirection : Nat) (name : String) :
    Prop where
  text : leadingTexts e = [Code.declaration isConst base indirection ""]
  untagged : e.elements "ptype" = []
  named : (e.elements "name").getLast?.map (·.content) = some name

section Reading

variable {e : Element} {isConst : Bool} {base name : String} {indirection : Nat}

/-- The qualifier that was printed is read back. -/
theorem isConst_of_prints (h : Prints e isConst base indirection name) (hbase : IsPlainType base) :
    (Declaration.ofElement e).isConst = isConst := by
  rw [Bool.eq_iff_iff, Declaration.isConst_ofElement, leadingWords_eq, h.text, List.flatMap_singleton,
    wordsOf_declaration]
  -- the base type does not bring a qualifier of its own
  have hnot : "const".toList ∉ wordsOf base := (isPlainType_iff.mp hbase).2.1
  cases isConst with
  | false => simpa using hnot
  | true => simp

/-- The base type that was printed is read back: it is the words without the qualifier. -/
theorem base?_of_prints (h : Prints e isConst base indirection name) (hbase : IsPlainType base) :
    (Declaration.ofElement e).base? = some base := by
  obtain ⟨hne, hnot, hbase⟩ := isPlainType_iff.mp hbase
  -- `const` is taken out of the words, and no word of the base type is
  have hwords : ((if isConst then ["const".toList] else []) ++ wordsOf base).filter
      (· ≠ "const".toList) = wordsOf base := by
    have hkept : (wordsOf base).filter (· ≠ "const".toList) = wordsOf base := by
      rw [List.filter_eq_self]
      intro w hw
      exact decide_eq_true fun heq => hnot (heq ▸ hw)
    rw [List.filter_append, hkept]
    cases isConst <;> rfl
  -- the words, joined with single spaces, are the base type as it was
  have hjoined : " ".intercalate ((wordsOf base).map String.ofList) = base := by
    rw [← String.toList_inj, String.toList_intercalate, hbase, List.map_map]
    simp [Function.comp_def]
  rw [base?_ofElement, h.untagged, leadingWords_eq, h.text, List.flatMap_singleton,
    wordsOf_declaration, hwords, spaced?, if_neg hne, hjoined]
  rfl

/-- The asterisks that were printed are counted again, as long as there are no more than are counted
at all. -/
theorem indirection_of_prints (h : Prints e isConst base indirection name)
    (hbase : IsPlainType base) (hle : indirection ≤ maxIndirection) :
    (Declaration.ofElement e).indirection = indirection := by
  rw [indirection_ofElement, h.text, List.map_singleton, List.sum_singleton,
    starsOf_declaration isConst hbase]
  exact Nat.min_eq_right hle

/-- The name that was printed is read back, if it has no white space around it. -/
theorem name_of_prints (h : Prints e isConst base indirection name) (htrimmed : trim name = name) :
    (Declaration.ofElement e).name = some name := by
  rw [name_ofElement]
  obtain ⟨last, hlast, rfl⟩ := Option.map_eq_some_iff.mp h.named
  rw [hlast, Option.map_some, htrimmed]

/-- A parameter is read back from its declaration as it is printed. -/
theorem ofElement_of_prints (h : Prints e isConst base indirection name)
    (hbase : IsPlainType base) (hle : indirection ≤ maxIndirection) (htrimmed : trim name = name)
    (hne : name ≠ "") :
    Parameter.ofElement e = .ok ⟨name, base, isConst, indirection, attributeText? e "class",
      attributeText? e "group", attributeText? e "len"⟩ :=
  parameter_ofElement_eq_ok.mpr ⟨⟨name_of_prints h htrimmed, hne⟩, base?_of_prints h hbase,
    (isConst_of_prints h hbase).symm, (indirection_of_prints h hbase hle).symm, rfl, rfl, rfl⟩

end Reading

/-! ### Printing -/

/-- What is printed of a parameter, with its name tagged. -/
def printed (p : Parameter) : List Node :=
  [.text (Code.declaration p.isConst p.base p.indirection ""),
    .element "name" [] ⟨0, 0⟩ [.text p.name]]

/-- Without the tag, it is what is written in code. -/
theorem content_printed (p : Parameter) :
    Xml.contentOfAll (fun _ => "") (printed p) = Pointer.paramText p := by
  simp [printed, Pointer.paramText, Code.declaration, Xml.contentOfAll, Node.contentWith]

/-- An element with the printed form of a parameter inside prints it. -/
theorem prints_printed {e : Element} {p : Parameter} (h : e.children = printed p) :
    Prints e p.isConst p.base p.indirection p.name := by
  -- the tag is taken off the name again
  have hname : Element.content ⟨"name", [], ⟨0, 0⟩, [.text p.name]⟩ = p.name := by
    simp [Element.content, Xml.contentOfAll, Node.contentWith]
  refine ⟨?_, ?_, ?_⟩
  · rw [leadingTexts, leading, h]
    rfl
  · rw [Element.elements, Element.childElements, h]
    rfl
  · rw [Element.elements, Element.childElements, h]
    exact congrArg some hname

/-- The name of a parameter that is read has no white space around it. -/
theorem trim_name {e : Element} {p : Parameter} (h : ofElement e = .ok p) : trim p.name = p.name := by
  obtain ⟨⟨hname, -⟩, -⟩ := parameter_ofElement_eq_ok.mp h
  rw [name_ofElement] at hname
  obtain ⟨last, -, hlast⟩ := Option.map_eq_some_iff.mp hname
  rw [← hlast, trim_trim]

/-- **Printing and reading.**  A parameter whose base type consists of words is read back from an
element that has its printed declaration in front of the name: what is printed of it, with the name
tagged, is such an element, and is what stands in code.  So if a parameter that was read is printed
and read once more, it is the same. -/
theorem printed_read_back :
    (∀ (isConst : Bool) (base : String) (indirection : Nat) (name : String),
      IsPlainType base → indirection ≤ maxIndirection → trim name = name → name ≠ "" →
      ∀ e, Prints e isConst base indirection name →
        ofElement e = .ok ⟨name, base, isConst, indirection, attributeText? e "class",
          attributeText? e "group", attributeText? e "len"⟩)
    ∧ (∀ p : Parameter, Xml.contentOfAll (fun _ => "") (printed p) = Pointer.paramText p
      ∧ ∀ e : Element, e.children = printed p → Prints e p.isConst p.base p.indirection p.name)
    ∧ ∀ (e : Element) (p : Parameter), ofElement e = .ok p → IsPlainType p.base →
      ofElement { e with children := printed p } = .ok p := by
  refine ⟨fun _ _ _ _ hbase hle htrimmed hne e h => ofElement_of_prints h hbase hle htrimmed hne,
    fun p => ⟨content_printed p, fun e => prints_printed⟩, ?_⟩
  intro e p hread hbase
  obtain ⟨⟨-, hne⟩, -, -, hindirection, hclass, hgroup, hlength⟩ :=
    parameter_ofElement_eq_ok.mp hread
  have hle : p.indirection ≤ maxIndirection := hindirection ▸ indirection_le e
  rw [ofElement_of_prints (prints_printed rfl) hbase hle (trim_name hread) hne]
  -- the attributes are those of the element that was read first
  obtain ⟨name, base, isConst, indirection, owningClass, group, length⟩ := p
  subst hclass hgroup hlength
  rfl

/-- `const unsigned int*const*<name> v </name>` is printed as `const unsigned int **v`. -/
theorem printed_read_back_pointer :
    let span : Span := ⟨0, 0⟩
    let e : Element := ⟨"param", [⟨none, "len", "n"⟩], span,
      [.text "const unsigned int*const*", .element "name" [] span [.text " v "]]⟩
    let p : Parameter := ⟨"v", "unsigned int", true, 2, none, none, some "n"⟩
    ofElement e = .ok p ∧ IsPlainType p.base
      ∧ ofElement { e with children := printed p } = .ok p
      ∧ Pointer.paramText p = "const unsigned int **v" := by
  intro span e p
  have hread : ofElement e = .ok p := parameter_ofElement_eq_ok.mpr (by decide)
  have hbase : IsPlainType p.base := by decide
  obtain ⟨-, -, hagain⟩ := printed_read_back
  exact ⟨hread, hbase, hagain e p hread hbase, by decide⟩

end Parameter
end GLBindings
