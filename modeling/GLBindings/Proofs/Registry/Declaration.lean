import GLBindings.Proofs.Text
import GLBindings.Proofs.Xml.Tree
import GLBindings.Registry.Reader

namespace GLBindings

open GLBindings.Text
open GLBindings.Xml (Element Node)

/-!
# Declaration — what mixed content declares

A declaration is read child by child, and the words of a text token by token.  This file says what
comes out in the end: the last `<name>` and the last `<ptype>` count, and of the texts those in front
of the first `<name>`.

* `leading`, `trailing` — the children in front of the first `<name>`, and the others.
* `leadingTexts`, `leadingWords` — the texts in front of the name, and their words, cut at white
  space and asterisks.
* `typePieces`, `joinedType` — what the full type is joined from, and the full type.
* `scan_eq`, `part_scan` — a text is a run over its tokens, or over its words.
* `part_ofElement`, `list_ofElement`, `part_ofElement_of_texts`, `part_ofElement_of_words` — how what
  is collected comes about, for any part of it.
* `name_ofElement`, `taggedType_ofElement`, `words_ofElement`, `fullType_ofElement` — the parts;
  `base?_eq_none` — when there is no type among them.
-/

namespace Declaration

/-! ### The children -/

/-- The trimmed text of an element with this tag. -/
def taggedText? (tag : String) : Node → Option String
  | .element t _ _ children =>
    if t = tag then some (trim (Xml.contentOfAll (fun _ => "") children)) else none
  | _ => none

/-- The children in front of the first `<name>`. -/
def leading (e : Element) : List Node :=
  e.children.takeWhile (!Node.hasTag "name" ·)

/-- The children from the first `<name>` on. -/
def trailing (e : Element) : List Node :=
  e.children.dropWhile (!Node.hasTag "name" ·)

/-- The text that a node is. -/
def textOf? : Node → Option String
  | .text value => some value
  | _ => none

/-- The texts in front of the first `<name>`. -/
def leadingTexts (e : Element) : List String :=
  (leading e).filterMap textOf?

/-- The texts of one tag are read off in the order of the elements. -/
theorem filterMap_taggedText? (e : Element) (tag : String) :
    e.children.filterMap (taggedText? tag) = (e.elements tag).map (trim ·.content) := by
  rw [Element.elements, Element.childElements]
  induction e.children with
  | nil => rfl
  | cons n ns ih =>
    rw [List.filterMap_cons, List.filterMap_cons]
    cases n with
    | element t attributes span children =>
      -- an element with the tag counts on both sides, any other node on neither
      by_cases ht : t = tag
      · simp [taggedText?, Node.element?, ht, ih, Element.content]
      · simp [taggedText?, Node.element?, ht, ih]
    | text value => exact ih
    | comment => exact ih
    | instruction => exact ih

/-! ### The words of a text -/

/-- The maximal runs of a text without white space and asterisks. -/
def wordsOf (text : String) : List (List Char) :=
  runsBetween (fun c => isBlank c || c == '*') text.toList

/-- The words in front of the name. -/
def wordsIn : Node → List (List Char)
  | .text value => wordsOf value
  | _ => []

/-- The words in front of the first `<name>`. -/
def leadingWords (e : Element) : List (List Char) :=
  (leading e).flatMap wordsIn

/-- The words in front of the name are those of each text in turn: no word runs over an element. -/
theorem leadingWords_eq (e : Element) : leadingWords e = (leadingTexts e).flatMap wordsOf := by
  rw [leadingWords, leadingTexts]
  induction leading e with
  | nil => rfl
  | cons n ns ih =>
    rw [List.flatMap_cons, ih, List.filterMap_cons]
    cases n <;> rfl

/-- Words as a declaration collects them. -/
def collected (ws : List (List Char)) : List String :=
  (ws.filter (· ≠ "const".toList)).map String.ofList

section Scanning

variable {α : Type}

/-- A run over tokens, for a part of what is collected that asterisks leave alone: it is a run over
the words in the tokens. -/
theorem part_foldl_addToken (part : Declaration → α) (step : α → List Char → α)
    (hword : ∀ d w, part (addWord d w) = step (part d) w)
    (hstars : ∀ d n, part { d with indirection := n } = part d) (d : Declaration)
    (tokens : List (List Char)) : part (tokens.foldl addToken d)
      = (tokens.flatMap (runsBetween (· == '*'))).foldl step (part d) := by
  -- the asterisks of a token are counted ahead of its words, where `part` does not see them
  have hwords : ∀ (ws : List (List Char)) d, part (ws.foldl addWord d) = ws.foldl step (part d) := by
    intro ws
    induction ws with
    | nil => exact fun _ => rfl
    | cons w ws ih =>
      intro d
      rw [List.foldl_cons, List.foldl_cons, ih, hword]
  induction tokens generalizing d with
  | nil => rfl
  | cons token tokens ih =>
    rw [List.foldl_cons, ih, addToken, hwords, hstars, List.flatMap_cons, List.foldl_append]

/-- A text is a piece of the full type, unless it is blank, and a run over its tokens. -/
theorem scan_eq (d : Declaration) (text : String) :
    d.scan text = (Text.words text.toList).foldl addToken
      { d with pieces := d.pieces ++ (nonBlank? text).toList } := by
  rw [scan, nonBlank?, trim, ← words_trimChars]
  cases trimChars text.toList with
  | nil =>
    rw [Option.filter_some, if_neg (by simp), Option.toList_none, List.append_nil]
    rfl
  | cons c cs =>
    have hne : String.ofList (c :: cs) ≠ "" := by
      rw [ne_eq, ← String.toList_inj]
      simp
    rw [Option.filter_some, if_pos (decide_eq_true hne)]
    rfl

/-- A text is a run over its words, for a part that asterisks and the piece of the full type leave
alone. -/
theorem part_scan (part : Declaration → α) (step : α → List Char → α)
    (hword : ∀ d w, part (addWord d w) = step (part d) w)
    (hset : ∀ d pieces n, part { d with pieces := pieces, indirection := n } = part d)
    (d : Declaration) (text : String) : part (d.scan text) = (wordsOf text).foldl step (part d) := by
  -- the piece that the text is of the full type makes no difference to the part
  have hpieces : part { d with pieces := d.pieces ++ (nonBlank? text).toList } = part d :=
    hset d _ d.indirection
  rw [scan_eq, part_foldl_addToken part step hword (fun d n => hset d d.pieces n), hpieces, wordsOf,
    runsBetween_or]
  rfl

/-- Loose text names nothing. -/
theorem name_scan (d : Declaration) (text : String) : (d.scan text).name = d.name := by
  rw [part_scan (·.name) (fun name _ => name) (fun d w => by rw [addWord]; split <;> rfl)
    (fun _ _ _ => rfl), List.foldl_fixed]

/-- Loose text tags no type. -/
theorem taggedType_scan (d : Declaration) (text : String) :
    (d.scan text).taggedType = d.taggedType := by
  rw [part_scan (·.taggedType) (fun tagged _ => tagged) (fun d w => by rw [addWord]; split <;> rfl)
    (fun _ _ _ => rfl), List.foldl_fixed]

/-- Loose text is a piece of the type, unless it is blank. -/
theorem pieces_scan (d : Declaration) (text : String) :
    (d.scan text).pieces = d.pieces ++ (nonBlank? text).toList := by
  rw [scan_eq, part_foldl_addToken (·.pieces) (fun pieces _ => pieces)
    (fun d w => by rw [addWord]; split <;> rfl) (fun _ _ => rfl), List.foldl_fixed]

end Scanning

/-! ### A run over the children -/

section Children

variable {α : Type}

/-- A later `<name>` takes the place of an earlier one. -/
theorem name_addNode (d : Declaration) (n : Node) :
    (d.addNode n).name = (taggedText? "name" n).or d.name := by
  cases n with
  | element tag attributes span children =>
    -- only a `<name>` sets the name, and it does so whatever was there
    by_cases hname : tag = "name"
    · simp [addNode, taggedText?, hname]
    · by_cases htype : tag = "ptype"
      · simp [addNode, taggedText?, htype]
      · simp [addNode, taggedText?, hname, htype]
  | text value =>
    have hnone : taggedText? "name" (.text value) = none := rfl
    rw [addNode, hnone, Option.none_or]
    split
    · exact name_scan d value
    · rfl
  | comment => rfl
  | instruction => rfl

/-- A later `<ptype>` takes the place of an earlier one. -/
theorem taggedType_addNode (d : Declaration) (n : Node) :
    (d.addNode n).taggedType = (taggedText? "ptype" n).or d.taggedType := by
  cases n with
  | element tag attributes span children =>
    -- only a `<ptype>` sets the tagged type
    by_cases htype : tag = "ptype"
    · simp [addNode, taggedText?, htype]
    · by_cases hname : tag = "name"
      · simp [addNode, taggedText?, hname]
      · simp [addNode, taggedText?, hname, htype]
  | text value =>
    have hnone : taggedText? "ptype" (.text value) = none := rfl
    rw [addNode, hnone, Option.none_or]
    split
    · exact taggedType_scan d value
    · rfl
  | comment => rfl
  | instruction => rfl

/-- What an element with a certain tag sets is in the end what the last of them set. -/
theorem foldl_addNode_of_or (part : Declaration → Option String) {set : Node → Option String}
    (h : ∀ d n, part (addNode d n) = (set n).or (part d)) (d : Declaration) (ns : List Node) :
    part (ns.foldl addNode d) = (ns.filterMap set).getLast?.or (part d) := by
  induction ns generalizing d with
  | nil => rfl
  | cons n ns ih =>
    rw [List.foldl_cons, ih, h, List.filterMap_cons]
    -- what this child sets is only left if none of the others sets anything
    cases set n with
    | none => rfl
    | some s =>
      rw [List.getLast?_cons]
      cases (ns.filterMap set).getLast? <;> rfl

/-- The name is the text of the last `<name>`. -/
theorem name_ofElement (e : Element) :
    (ofElement e).name = (e.elements "name").getLast?.map (trim ·.content) := by
  rw [ofElement, foldl_addNode_of_or (·.name) name_addNode, filterMap_taggedText?,
    List.getLast?_map]
  exact Option.or_none

/-- The tagged type is the text of the last `<ptype>`. -/
theorem taggedType_ofElement (e : Element) :
    (ofElement e).taggedType = (e.elements "ptype").getLast?.map (trim ·.content) := by
  rw [ofElement, foldl_addNode_of_or (·.taggedType) taggedType_addNode,
    filterMap_taggedText?, List.getLast?_map]
  exact Option.or_none

/-- A node is a `<name>` exactly if it gives one. -/
theorem hasTag_name_iff {n : Node} :
    Node.hasTag "name" n = true ↔ ∃ s, taggedText? "name" n = some s := by
  cases n <;> simp [Node.hasTag, taggedText?]

/-- **A run over the children.**  A part of what is collected, which the children in front of the
first `<name>` and those behind it change each in their way. -/
theorem part_ofElement (part : Declaration → α) (loud quiet : α → Node → α)
    (hloud : ∀ d n, d.name = none → part (addNode d n) = loud (part d) n)
    (hquiet : ∀ d n, d.name ≠ none → part (addNode d n) = quiet (part d) n)
    (hname : ∀ a n, Node.hasTag "name" n = true → loud a n = quiet a n) (e : Element) :
    part (ofElement e) = (trailing e).foldl quiet ((leading e).foldl loud (part empty)) := by
  -- once there is a name, every child acts quietly
  have hbehind : ∀ (ns : List Node) d, d.name ≠ none →
      part (ns.foldl addNode d) = ns.foldl quiet (part d) := by
    intro ns
    induction ns with
    | nil => exact fun _ _ => rfl
    | cons n ns ih =>
      intro d hd
      have hstays : (addNode d n).name ≠ none := by
        rw [name_addNode]
        cases taggedText? "name" n <;> simp [hd]
      rw [List.foldl_cons, List.foldl_cons, ih _ hstays, hquiet d n hd]
  -- up to the first name, every child acts loudly, and so does that name
  have hall : ∀ (ns : List Node) d, d.name = none →
      part (ns.foldl addNode d) = (ns.dropWhile (!Node.hasTag "name" ·)).foldl quiet
        ((ns.takeWhile (!Node.hasTag "name" ·)).foldl loud (part d)) := by
    intro ns
    induction ns with
    | nil => exact fun _ _ => rfl
    | cons n ns ih =>
      intro d hd
      by_cases htag : Node.hasTag "name" n = true
      · -- the first name: from here on texts do not count
        obtain ⟨s, hs⟩ := hasTag_name_iff.mp htag
        have hnamed : (addNode d n).name ≠ none := by simp [name_addNode, hs]
        rw [List.dropWhile_cons_of_neg (by simpa using htag),
          List.takeWhile_cons_of_neg (by simpa using htag), List.foldl_cons, List.foldl_cons,
          hbehind ns _ hnamed, hloud d n hd, hname _ n htag]
        rfl
      · have hnone : taggedText? "name" n = none := by
          rw [Option.eq_none_iff_forall_ne_some]
          exact fun s hs => htag (hasTag_name_iff.mpr ⟨s, hs⟩)
        have hstays : (addNode d n).name = none := by simp [name_addNode, hnone, hd]
        rw [List.dropWhile_cons_of_pos (by simpa using htag),
          List.takeWhile_cons_of_pos (by simpa using htag), List.foldl_cons, List.foldl_cons,
          ih _ hstays, hloud d n hd]
  exact hall e.children empty rfl

/-- The same for a part that grows at its end. -/
theorem list_ofElement (part : Declaration → List String) (loud quiet : Node → List String)
    (hloud : ∀ d n, d.name = none → part (addNode d n) = part d ++ loud n)
    (hquiet : ∀ d n, d.name ≠ none → part (addNode d n) = part d ++ quiet n)
    (hname : ∀ n, Node.hasTag "name" n = true → loud n = quiet n) (e : Element) :
    part (ofElement e) = part empty ++ (leading e).flatMap loud ++ (trailing e).flatMap quiet := by
  -- to grow child by child is to grow by all that the children add
  have hrun : ∀ (g : Node → List String) (ns : List Node) (start : List String),
      ns.foldl (fun l n => l ++ g n) start = start ++ ns.flatMap g := by
    intro g ns
    induction ns with
    | nil => simp
    | cons n ns ih => simp [ih]
  rw [part_ofElement part (fun l n => l ++ loud n) (fun l n => l ++ quiet n) hloud hquiet
    fun l n hn => congrArg (l ++ ·) (hname n hn), hrun, hrun]

/-- The same for a part that elements leave alone: it comes from the texts in front of the first
`<name>`. -/
theorem part_ofElement_of_texts (part : Declaration → α) (step : α → String → α)
    (hset : ∀ d name taggedType pieces,
      part { d with name := name, taggedType := taggedType, pieces := pieces } = part d)
    (hscan : ∀ d text, part (d.scan text) = step (part d) text) (e : Element) :
    part (ofElement e) = (leadingTexts e).foldl step (part empty) := by
  -- an element sets one of the parts that do not count
  have helement : ∀ d tag attributes span children,
      part (addNode d (.element tag attributes span children)) = part d := by
    intro d tag attributes span children
    rw [addNode]
    split
    · exact hset d d.name _ _
    · split
      · exact hset d _ d.taggedType d.pieces
      · rfl
  -- among the children in front of the name only texts have an effect
  have htexts : ∀ (ns : List Node) (a : α), ns.foldl (fun a n => (textOf? n).elim a (step a)) a
      = (ns.filterMap textOf?).foldl step a := by
    intro ns
    induction ns with
    | nil => exact fun _ => rfl
    | cons n ns ih =>
      intro a
      rw [List.foldl_cons, ih, List.filterMap_cons]
      cases textOf? n <;> rfl
  rw [part_ofElement part (fun a n => (textOf? n).elim a (step a)) (fun a _ => a) ?loud ?quiet ?name,
    List.foldl_fixed, htexts, leadingTexts]
  case loud =>
    intro d n hd
    cases n with
    | element tag attributes span children => exact helement d tag attributes span children
    | text value =>
      rw [addNode, hd]
      exact hscan d value
    | _ => rfl
  case quiet =>
    intro d n hd
    cases n with
    | element tag attributes span children => exact helement d tag attributes span children
    | text value =>
      rw [addNode, if_neg (by simpa using hd)]
    | _ => rfl
  case name =>
    intro a n hn
    cases n with
    | element => rfl
    | _ => cases hn

/-- When it leaves asterisks alone too, it comes from the words of these texts. -/
theorem part_ofElement_of_words (part : Declaration → α) (step : α → List Char → α)
    (hword : ∀ d w, part (addWord d w) = step (part d) w)
    (hset : ∀ d name taggedType pieces n, part { d with
      name := name, taggedType := taggedType, pieces := pieces, indirection := n } = part d)
    (e : Element) : part (ofElement e) = (leadingWords e).foldl step (part empty) := by
  rw [part_ofElement_of_texts part (fun a text => (wordsOf text).foldl step a)
    (fun d name taggedType pieces => hset d name taggedType pieces d.indirection)
    (part_scan part step hword fun d => hset d d.name d.taggedType), ← List.foldl_flatMap,
    leadingWords_eq]

end Children

/-! ### The words and the full type -/

/-- The words are those of the texts in front of the first `<name>`. -/
theorem words_ofElement (e : Element) : (ofElement e).words = collected (leadingWords e) := by
  -- word by word, leaving out `const`
  have hcollect : ∀ (ws : List (List Char)) (start : List String),
      ws.foldl (fun words w => if w = "const".toList then words else words ++ [String.ofList w]) start
        = start ++ collected ws := by
    intro ws
    induction ws with
    | nil => exact fun start => (List.append_nil start).symm
    | cons w ws ih =>
      intro start
      rw [List.foldl_cons, ih, collected, collected, List.filter_cons]
      by_cases hw : w = "const".toList
      · rw [if_pos hw, if_neg (by rw [decide_eq_true_eq]; exact not_not.mpr hw)]
      · rw [if_neg hw, if_pos (decide_eq_true hw), List.map_cons, List.append_assoc]
        rfl
  rw [part_ofElement_of_words (·.words)
    (fun words w => if w = "const".toList then words else words ++ [String.ofList w])
    (fun d w => by rw [addWord]; split <;> rfl) (fun _ _ _ _ _ => rfl), hcollect]
  rfl

/-- The pieces of the full type in a child in front of the first `<name>`. -/
def piecesIn : Node → List String
  | .text value => (nonBlank? value).toList
  | n => (taggedText? "ptype" n).toList

/-- In front of the name every piece counts, behind it only a `<ptype>`. -/
theorem pieces_addNode (d : Declaration) (n : Node) :
    (d.addNode n).pieces
      = d.pieces ++ if d.name.isNone then piecesIn n else (taggedText? "ptype" n).toList := by
  cases n with
  | element tag attributes span children =>
    have hpieces : piecesIn (.element tag attributes span children)
        = (taggedText? "ptype" (.element tag attributes span children)).toList := rfl
    rw [hpieces, ite_self, addNode, taggedText?]
    split
    · rfl
    · split <;> simp
  | text value =>
    rw [addNode]
    split
    · exact pieces_scan d value
    · simp [taggedText?]
  | comment => simp [addNode, piecesIn, taggedText?]
  | instruction => simp [addNode, piecesIn, taggedText?]

/-- The pieces that the full type is joined from: each `<ptype>`, and each text in front of the
first `<name>` that is not blank. -/
def typePieces (e : Element) : List String :=
  (leading e).flatMap piecesIn ++ (trailing e).flatMap fun n => (taggedText? "ptype" n).toList

/-- The full type. -/
def joinedType (e : Element) : String :=
  " ".intercalate (typePieces e)

/-- The full type is the pieces with single spaces between them. -/
theorem fullType_ofElement (e : Element) : (ofElement e).fullType = joinedType e := by
  rw [fullType, joinedType, typePieces, list_ofElement (·.pieces) piecesIn
    (fun n => (taggedText? "ptype" n).toList) ?loud ?quiet ?name]
  · rfl
  -- in front of the name
  case loud => exact fun d n hd => by rw [pieces_addNode, hd]; rfl
  -- behind it
  case quiet => exact fun d n hd => by rw [pieces_addNode, if_neg (by simpa using hd)]
  case name =>
    intro n hn
    cases n with
    | element => rfl
    | _ => cases hn

/-- There is no type when there is no `<ptype>` and no word but `const`. -/
theorem base?_eq_none {e : Element} :
    (ofElement e).base? = none
      ↔ e.elements "ptype" = [] ∧ ∀ w ∈ leadingWords e, w = "const".toList := by
  have hwords : collected (leadingWords e) = [] ↔ ∀ w ∈ leadingWords e, w = "const".toList := by
    rw [collected, List.map_eq_nil_iff, List.filter_eq_nil_iff]
    simp only [decide_eq_true_eq, ne_eq, not_not]
  rw [← hwords, ← words_ofElement, base?, taggedType_ofElement, ← List.getLast?_eq_none_iff]
  cases (e.elements "ptype").getLast? with
  | none => cases (ofElement e).words <;> simp
  | some tagged => simp

end Declaration

end GLBindings
