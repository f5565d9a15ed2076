import GLBindings.Proofs.Registry.Acceptance
import GLBindings.Proofs.Registry.Declaration
import Mathlib.Algebra.Ring.Nat
import Mathlib.Logic.Relation

namespace GLBindings

open GLBindings.Text
open GLBindings.Xml (Element Node elementsOf elementsOf_append elementsOf_cons_of_not)

/-!
# Mixed content — declarations without a scanner

A declaration is collected child by child, text by text and token by token, with a count of asterisks
that stops at a limit at each step.  This file says what comes out without any of these steps, and
that it stays the same when a text is cut, as a comment does it.

* `isConst_ofElement`, `indirection_ofElement`, `base?_ofElement` — what they say, each as one
  equation; the other parts are in `Declaration`.
* `Declares` — all of it together.
* `parameter_ofElement_eq_ok`, `command_ofElement_eq_ok` — which parameter or command an element is
  read as.
* `Cut` — one text becomes two, beside a separator; `Cut.sameDeclaration`, `sameDeclaration_of_eqvGen`
  — one cut and any number of cuts.
* `ofElement_declares` — which declaration an element is read as, however its texts are cut.
-/

namespace Declaration

/-! ### Words -/

/-- White space and asterisks, which separate words. -/
def isSeparator (c : Char) : Bool :=
  isBlank c || c == '*'

/-- The words of a text are its maximal runs without separators. -/
theorem runs_wordsOf (text : String) : Runs isSeparator text.toList (wordsOf text) :=
  runs_iff.mpr rfl

/-! ### The word `const` -/

/-- The constant flag is the word `const` in front of the first `<name>`. -/
theorem isConst_ofElement (e : Element) :
    (ofElement e).isConst = true ↔ "const".toList ∈ leadingWords e := by
  have hmem : ∀ (ws : List (List Char)) (start : Bool),
      ws.foldl (fun b w => if w = "const".toList then true else b) start = true
        ↔ start = true ∨ "const".toList ∈ ws := by
    intro ws
    induction ws with
    | nil => simp
    | cons w ws ih =>
      intro start
      rw [List.foldl_cons, ih, List.mem_cons]
      by_cases hw : w = "const".toList
      · simp [hw]
      · rw [if_neg hw, or_iff_right (Ne.symm hw)]
  rw [part_ofElement_of_words (·.isConst) (fun b w => if w = "const".toList then true else b)
    (fun d w => by rw [addWord]; split <;> rfl) (fun _ _ _ _ _ => rfl), hmem]
  exact or_iff_right Bool.false_ne_true

/-! ### Asterisks -/

/-- The asterisks in a text. -/
def starsOf (text : String) : Nat :=
  text.toList.count '*'

/-- The asterisks of a text stand in its tokens. -/
theorem sum_count_words (cs : List Char) :
    ((Text.words cs).map (List.count '*')).sum = cs.count '*' := by
  rw [← List.count_flatten, Text.words, flatten_runsBetween]
  exact List.count_filter rfl

/-- The words of a token leave the count of asterisks alone. -/
theorem indirection_foldl_addWord (d : Declaration) (ws : List (List Char)) :
    (ws.foldl addWord d).indirection = d.indirection := by
  induction ws generalizing d with
  | nil => rfl
  | cons w ws ih =>
    rw [List.foldl_cons, ih, addWord]
    split <;> rfl

/-- The asterisks of a text are added token by token, each time up to the limit. -/
theorem indirection_scan (d : Declaration) (text : String) :
    (d.scan text).indirection = (Text.words text.toList).foldl
      (fun stars token => addStars stars (token.count '*')) d.indirection := by
  -- a token adds its own asterisks, and its words add none
  have htokens : ∀ (tokens : List (List Char)) (d : Declaration),
      (tokens.foldl addToken d).indirection
        = tokens.foldl (fun stars token => addStars stars (token.count '*')) d.indirection := by
    intro tokens
    induction tokens with
    | nil => exact fun _ => rfl
    | cons token tokens ih =>
      intro d
      rw [List.foldl_cons, ih, addToken, indirection_foldl_addWord]
      rfl
  rw [scan_eq, htokens]

/-- A count that stops at a limit at each step stops there in the end. -/
theorem foldl_min_add {α : Type} (limit : Nat) (f : α → Nat) (xs : List α) (start : Nat) :
    xs.foldl (fun a x => min limit (a + f x)) (min limit start)
      = min limit (start + (xs.map f).sum) := by
  induction xs generalizing start with
  | nil => rfl
  | cons x xs ih =>
    have hstep : min limit (min limit start + f x) = min limit (start + f x) := by omega
    rw [List.foldl_cons, hstep, ih, List.map_cons, List.sum_cons, Nat.add_assoc]

/-- The asterisks in front of the first `<name>` are counted to a limit. -/
theorem indirection_ofElement (e : Element) :
    (ofElement e).indirection = min maxIndirection ((leadingTexts e).map starsOf).sum := by
  -- a token that is counted to the limit for itself adds as much
  have hstep : (fun (stars : Nat) (token : List Char) => addStars stars (token.count '*'))
      = fun stars token => min maxIndirection (stars + token.count '*') := by
    funext stars token
    rw [addStars]
    omega
  have hsum : (((leadingTexts e).flatMap fun text => Text.words text.toList).map
      (List.count '*')).sum = ((leadingTexts e).map starsOf).sum := by
    rw [List.flatMap_def, List.map_flatten, List.sum_flatten, List.map_map, List.map_map]
    exact congrArg List.sum (List.map_congr_left fun text _ => sum_count_words text.toList)
  rw [part_ofElement_of_texts (·.indirection) (fun stars text => (Text.words text.toList).foldl
    (fun stars token => addStars stars (token.count '*')) stars) (fun _ _ _ _ => rfl)
    indirection_scan, ← List.foldl_flatMap, hstep, ← hsum]
  exact (foldl_min_add maxIndirection _ _ 0).trans (by rw [Nat.zero_add])

/-- No more asterisks are counted than to the limit. -/
theorem indirection_le (e : Element) : (ofElement e).indirection ≤ maxIndirection := by
  rw [indirection_ofElement]
  exact Nat.min_le_left _ _

/-! ### The base type -/

/-- Words with single spaces between them, if there are any. -/
def spaced? (ws : List (List Char)) : Option String :=
  if ws = [] then none else some (" ".intercalate (ws.map String.ofList))

/-- The base type is the last `<ptype>`, or else consists of the words but `const`. -/
theorem base?_ofElement (e : Element) :
    (ofElement e).base? = ((e.elements "ptype").getLast?.map (trim ·.content)).or
      (spaced? ((leadingWords e).filter (· ≠ "const".toList))) := by
  rw [base?, taggedType_ofElement, words_ofElement, collected]
  cases (e.elements "ptype").getLast? with
  | some tagged => rfl
  | none =>
    cases (leadingWords e).filter (· ≠ "const".toList) with
    | nil => rfl
    | cons w ws => rfl

/-! ### A declaration as a whole -/

/-- What an element declares: the last `<name>` and the last `<ptype>` count, and of the texts those
in front of the first `<name>`, each with its own words. -/
structure Declares (e : Element) (d : Declaration) : Prop where
  name : d.name = (e.elements "name").getLast?.map (trim ·.content)
  indirection : d.indirection = min maxIndirection ((leadingTexts e).map starsOf).sum
  words : ∃ words, List.Forall₂ (fun text ws => Runs isSeparator text.toList ws) (leadingTexts e) words
    ∧ (d.isConst = true ↔ "const".toList ∈ words.flatten)
    ∧ d.base? = ((e.elements "ptype").getLast?.map (trim ·.content)).or
      (spaced? (words.flatten.filter (· ≠ "const".toList)))

/-- What an element is read as declares it. -/
theorem declares_ofElement (e : Element) : Declares e (ofElement e) := by
  refine ⟨name_ofElement e, indirection_ofElement e, (leadingTexts e).map wordsOf, ?_, ?_, ?_⟩
  · rw [List.forall₂_map_right_iff]
    exact List.forall₂_same.mpr fun text _ => runs_wordsOf text
  · rw [isConst_ofElement, leadingWords_eq, List.flatMap_def]
  · rw [base?_ofElement, leadingWords_eq, List.flatMap_def]

/-- A declaration is read exactly if it gives a name that is not empty. -/
theorem declarationOf_eq_ok {e : Element} {what : String} {d : Declaration} {name : String} :
    declarationOf e what = .ok (d, name)
      ↔ d = ofElement e ∧ (ofElement e).name = some name ∧ name ≠ "" := by
  rw [declarationOf]
  cases hname : (ofElement e).name with
  | none => simp
  | some declared =>
    -- an empty name counts as none
    by_cases hblank : declared = ""
    · simp only [hblank, Option.filter_some, ne_eq, not_true_eq_false, decide_false]
      simp only [Bool.false_eq_true, if_false, reduceCtorEq, Option.some.injEq, false_iff]
      rintro ⟨-, rfl, hne⟩
      exact hne rfl
    · simp only [Option.filter_some, ne_eq, hblank, not_false_eq_true, decide_true, if_true,
        Except.ok.injEq, Prod.mk.injEq, Option.some.injEq]
      constructor
      · rintro ⟨rfl, rfl⟩
        exact ⟨rfl, rfl, hblank⟩
      · rintro ⟨rfl, rfl, -⟩
        exact ⟨rfl, rfl⟩

/-- A parameter is what its element declares, with the attributes of the element. -/
theorem parameter_ofElement_eq_ok {e : Element} {p : Parameter} :
    Parameter.ofElement e = .ok p
      ↔ ((ofElement e).name = some p.name ∧ p.name ≠ "") ∧ (ofElement e).base? = some p.base
        ∧ p.isConst = (ofElement e).isConst ∧ p.indirection = (ofElement e).indirection
        ∧ p.owningClass = attributeText? e "class" ∧ p.group = attributeText? e "group"
        ∧ p.length = attributeText? e "len" := by
  rw [Parameter.ofElement, bind_eq_ok]
  constructor
  · rintro ⟨⟨d, name⟩, hdeclared, hread⟩
    obtain ⟨rfl, hname, hne⟩ := declarationOf_eq_ok.mp hdeclared
    -- without a base type the reader fails
    cases hbase : (ofElement e).base? with
    | none => simp [hbase] at hread
    | some base =>
      simp only [hbase] at hread
      obtain rfl := Except.ok.inj hread
      exact ⟨⟨hname, hne⟩, rfl, rfl, rfl, rfl, rfl, rfl⟩
  · rintro ⟨⟨hname, hne⟩, hbase, hconst, hindirection, hclass, hgroup, hlength⟩
    refine ⟨(ofElement e, p.name), declarationOf_eq_ok.mpr ⟨rfl, hname, hne⟩, ?_⟩
    simp only [hbase, ← hconst, ← hindirection, ← hclass, ← hgroup, ← hlength]
    rfl

/-- A command is what its first `<proto>` declares, with the parameters of its own element. -/
theorem command_ofElement_eq_ok {namespaceName : String} {e : Element} {c : Command} :
    Command.ofElement namespaceName e = .ok c
      ↔ ∃ proto ∈ (e.elements "proto").head?,
        ((ofElement proto).name = some c.name ∧ c.name ≠ "")
        ∧ (joinedType proto = c.returnType ∧ c.returnType ≠ "")
        ∧ c.returnBase = (ofElement proto).taggedType
        ∧ c.returnGroup = attributeText? proto "group"
        ∧ (e.elements "param").mapM Parameter.ofElement = .ok c.params
        ∧ c.namespaceName = namespaceName
        ∧ c.aliasOf = (e.elements "alias").head?.bind (attributeText? · "name") := by
  rw [Command.ofElement]
  cases (e.elements "proto").head? with
  | none => simp
  | some proto =>
    simp only [Option.mem_some, exists_eq_left', bind_eq_ok]
    constructor
    · rintro ⟨⟨d, name⟩, hdeclared, hread⟩
      -- the name comes first, then the return type, and then the parameters
      obtain ⟨rfl, hname, hne⟩ := declarationOf_eq_ok.mp hdeclared
      dsimp only at hread
      rw [fullType_ofElement] at hread
      split at hread
      · cases hread
      · rename_i htype
        obtain ⟨params, hparams, hread⟩ := bind_eq_ok.mp hread
        obtain rfl := Except.ok.inj hread
        exact ⟨⟨hname, hne⟩, ⟨rfl, htype⟩, rfl, rfl, hparams, rfl, rfl⟩
    · rintro ⟨⟨hname, hne⟩, ⟨htype, hnonempty⟩, hbase, hgroup, hparams, rfl, halias⟩
      refine ⟨(ofElement proto, c.name), declarationOf_eq_ok.mpr ⟨rfl, hname, hne⟩, ?_⟩
      dsimp only
      rw [fullType_ofElement, htype, if_neg hnonempty, hparams, ← hbase, ← hgroup, ← halias]
      rfl

/-! ### Cutting texts -/

/-- Nodes that a declaration takes nothing from. -/
structure IsSilent (n : Node) : Prop where
  text : textOf? n = none
  name : n.hasTag "name" = false
  ptype : n.hasTag "ptype" = false

/-- A text is cut in two beside a separator, and nodes that say nothing may come in between. -/
inductive Cut : List Node → List Node → Prop
  | cut (before between after : List Node) {a b : String}
      (hbeside : ∀ c ∈ a.toList.getLast?, ∀ d ∈ b.toList.head?,
        isSeparator c = true ∨ isSeparator d = true)
      (hbetween : ∀ n ∈ between, IsSilent n) :
      Cut (before ++ .text (a ++ b) :: after) (before ++ .text a :: (between ++ .text b :: after))

/-- Two texts with a separator where they meet have the words of each. -/
theorem wordsOf_append {a b : String} (h : ∀ c ∈ a.toList.getLast?, ∀ d ∈ b.toList.head?,
    isSeparator c = true ∨ isSeparator d = true) : wordsOf (a ++ b) = wordsOf a ++ wordsOf b := by
  rw [wordsOf, String.toList_append]
  exact runsBetween_append_of_beside h

/-- Asterisks add up wherever a text is cut. -/
theorem starsOf_append (a b : String) : starsOf (a ++ b) = starsOf a + starsOf b := by
  rw [starsOf, String.toList_append, List.count_append]
  rfl

/-- Elements with a tag of interest are neither cut nor put between. -/
theorem Cut.elementsOf_eq {ns ms : List Node} (h : Cut ns ms) {tag : String}
    (htag : tag = "name" ∨ tag = "ptype") : elementsOf tag ms = elementsOf tag ns := by
  cases h with
  | cut before between after hbeside hbetween =>
    -- what is put in between has no element of interest
    have hnone : elementsOf tag between = [] := by
      rw [elementsOf, List.filter_eq_nil_iff.mpr]
      · rfl
      · intro n hn
        rcases htag with rfl | rfl
        · simp [(hbetween n hn).name]
        · simp [(hbetween n hn).ptype]
    rw [elementsOf_append, elementsOf_append, elementsOf_cons_of_not rfl, elementsOf_cons_of_not rfl,
      elementsOf_append, hnone, elementsOf_cons_of_not rfl, List.nil_append]

/-- Of the texts in front of the name at most one is cut. -/
theorem Cut.leadingTexts_eq {e e' : Element} (h : Cut e.children e'.children) :
    leadingTexts e' = leadingTexts e
      ∨ ∃ front back a b, (∀ c ∈ a.toList.getLast?, ∀ d ∈ b.toList.head?,
          isSeparator c = true ∨ isSeparator d = true)
        ∧ leadingTexts e = front ++ (a ++ b) :: back
        ∧ leadingTexts e' = front ++ a :: b :: back := by
  rw [leadingTexts, leadingTexts, leading, leading]
  generalize e.children = ns at h
  generalize e'.children = ms at h
  cases h with
  | @cut before between after a b hbeside hbetween =>
    by_cases hnamed : (before.takeWhile (!Node.hasTag "name" ·)).length = before.length
    · -- the name, if there is one, is behind the text
      have hsilent : (between.filterMap textOf?) = [] :=
        List.filterMap_eq_nil_iff.mpr fun n hn => (hbetween n hn).text
      have hbetween' : ∀ n ∈ between, (!Node.hasTag "name" n) = true := by
        intro n hn
        simp [(hbetween n hn).name]
      refine .inr ⟨before.filterMap textOf?,
        (after.takeWhile (!Node.hasTag "name" ·)).filterMap textOf?, a, b, hbeside, ?_, ?_⟩
      · rw [List.takeWhile_append, if_pos hnamed, List.takeWhile_cons_of_pos rfl,
          List.filterMap_append]
        rfl
      · rw [List.takeWhile_append, if_pos hnamed, List.takeWhile_cons_of_pos rfl,
          List.takeWhile_append_of_pos hbetween', List.takeWhile_cons_of_pos rfl,
          List.filterMap_append, List.filterMap_cons, List.filterMap_append, hsilent]
        rfl
    · -- the text is behind the name, where texts do not count
      exact .inl (by rw [List.takeWhile_append, if_neg hnamed, List.takeWhile_append, if_neg hnamed])

/-- What a declaration says but for its full type. -/
def SameDeclaration (d d' : Declaration) : Prop :=
  d'.name = d.name ∧ d'.base? = d.base? ∧ d'.isConst = d.isConst ∧ d'.indirection = d.indirection

/-- A cut beside a separator changes nothing in a declaration but the pieces of its full type. -/
theorem Cut.sameDeclaration {e e' : Element} (h : Cut e.children e'.children) :
    SameDeclaration (ofElement e) (ofElement e') := by
  have helements : ∀ tag, tag = "name" ∨ tag = "ptype" → e'.elements tag = e.elements tag := by
    intro tag htag
    rw [Element.elements_eq, Element.elements_eq, h.elementsOf_eq htag]
  -- words and asterisks are all that is taken from texts
  have htexts : leadingWords e' = leadingWords e
      ∧ ((leadingTexts e').map starsOf).sum = ((leadingTexts e).map starsOf).sum := by
    rw [leadingWords_eq, leadingWords_eq]
    rcases h.leadingTexts_eq with hsame | ⟨front, back, a, b, hbeside, htexts, htexts'⟩
    · rw [hsame]
      exact ⟨rfl, rfl⟩
    · rw [htexts, htexts']
      -- beside a separator no word is torn, and asterisks are counted one by one
      constructor
      · simp [wordsOf_append hbeside]
      · simp [starsOf_append, Nat.add_assoc]
  refine ⟨?_, ?_, ?_, ?_⟩
  · rw [name_ofElement, name_ofElement, helements "name" (.inl rfl)]
  · rw [base?_ofElement, base?_ofElement, helements "ptype" (.inr rfl), htexts.1]
  · rw [Bool.eq_iff_iff, isConst_ofElement, isConst_ofElement, htexts.1]
  · rw [indirection_ofElement, indirection_ofElement, htexts.2]

/-- Any number of cuts, made or taken back. -/
theorem sameDeclaration_of_eqvGen {e e' : Element}
    (h : Relation.EqvGen Cut e.children e'.children) :
    SameDeclaration (ofElement e) (ofElement e') := by
  generalize hns : e.children = ns at h
  generalize hms : e'.children = ms at h
  induction h generalizing e e' with
  | rel ns ms h =>
    rw [← hns, ← hms] at h
    exact h.sameDeclaration
  | refl ns =>
    rw [ofElement, ofElement, hns, hms]
    exact ⟨rfl, rfl, rfl, rfl⟩
  | symm ns ms _ ih =>
    obtain ⟨hname, hbase, hconst, hindirection⟩ := ih hms hns
    exact ⟨hname.symm, hbase.symm, hconst.symm, hindirection.symm⟩
  | trans ns ls ms _ _ ih ih' =>
    -- the children in between are those of an element too
    have hfirst : SameDeclaration (ofElement e) (ofElement { e with children := ls }) := ih hns rfl
    have hsecond : SameDeclaration (ofElement { e with children := ls }) (ofElement e') := ih' rfl hms
    obtain ⟨hname, hbase, hconst, hindirection⟩ := hfirst
    obtain ⟨hname', hbase', hconst', hindirection'⟩ := hsecond
    exact ⟨hname'.trans hname, hbase'.trans hbase, hconst'.trans hconst,
      hindirection'.trans hindirection⟩

/-! ### Reading mixed content -/

/-- **What mixed content declares.**  The name is the text of the last `<name>`, trimmed.  Only the
texts in front of the first `<name>` count: their asterisks, to a limit, are the indirection, and
their words, which are the longest runs without white space and asterisks in one text, say whether the
declaration is constant.  The base type is the text of the last `<ptype>`, trimmed, or else consists of
the other words.  A parameter is read so, when it has a name and a base type.  None of the four
changes when texts are cut beside white space or asterisks, with comments or other nodes in between
that say nothing, or when such cuts are taken back. -/
theorem ofElement_declares (e : Element) :
    Declares e (ofElement e)
    ∧ (∀ what d name, declarationOf e what = .ok (d, name)
      ↔ d = ofElement e ∧ (ofElement e).name = some name ∧ name ≠ "")
    ∧ (∀ p, Parameter.ofElement e = .ok p
      ↔ ((ofElement e).name = some p.name ∧ p.name ≠ "") ∧ (ofElement e).base? = some p.base
        ∧ p.isConst = (ofElement e).isConst ∧ p.indirection = (ofElement e).indirection
        ∧ p.owningClass = attributeText? e "class" ∧ p.group = attributeText? e "group"
        ∧ p.length = attributeText? e "len")
    ∧ ∀ e' : Element, Relation.EqvGen Cut e.children e'.children →
      SameDeclaration (ofElement e) (ofElement e') :=
  ⟨declares_ofElement e, fun _ _ _ => declarationOf_eq_ok, fun _ => parameter_ofElement_eq_ok,
    fun _ => sameDeclaration_of_eqvGen⟩

/-- `const GLchar*/* cut */*const<name>s</name>` declares what it declares without the comment. -/
theorem ofElement_declares_commented :
    let span : Span := ⟨0, 0⟩
    let name : Node := .element "name" [] span [.text " s "]
    let whole : Element := ⟨"param", [], span, [.text "const GLchar**const", name]⟩
    let cut : Element := ⟨"param", [], span, [.text "const GLchar*", .comment, .text "*const", name]⟩
    Relation.EqvGen Cut whole.children cut.children
      ∧ SameDeclaration (ofElement whole) (ofElement cut)
      ∧ Parameter.ofElement whole = .ok ⟨"s", "GLchar", true, 2, none, none, none⟩ := by
  intro span name whole cut
  have hlast : "const GLchar*".toList.getLast? = some '*' := by decide
  have hcut : Relation.EqvGen Cut whole.children cut.children := by
    refine .rel _ _ (.cut [] [.comment] [name] (a := "const GLchar*") (b := "*const") ?_ ?_)
    · intro c hc d _
      rw [hlast, Option.mem_some_iff] at hc
      exact .inl (hc ▸ rfl)
    · simpa using ⟨rfl, rfl, rfl⟩
  obtain ⟨-, -, hparameter, hcuts⟩ := ofElement_declares whole
  refine ⟨hcut, hcuts cut hcut, (hparameter _).mpr ?_⟩
  decide

end Declaration
end GLBindings
