import GLBindings.Emission.Declarations
import GLBindings.Proofs.Registry.MixedContent

namespace GLBindings

open GLBindings.Text
open GLBindings.Xml (Element Node)

/-!
# Typing — declarations that say their type

A parameter is rejected when it has no `<ptype>` and no words for a type, and a command when the
pieces of its return type are joined to nothing.  Neither check looks into a `<ptype>`.  So a blank
one makes a declaration pass that says no type, and this file says which declarations do.

* `Element.TypesValue`, `Element.TypesReturn` — an element says the type of a value, or of what is
  returned.
* `nonBlank_base`, `mem_typePieces`, `nonBlank_joinedType` — what is read of a declaration, against
  what it says.
* `ReadTyped`, `readTyped_commands` — commands and their elements, one for one;
  `ReadTyped.isTyped_iff`, `ReadTyped.typesCommand` — when all types of a command are there.
* `TypesRead`, `registry_typed` — which trees, and which documents, are read with all their types.
* `loads_untyped` — a document that is read without some of them, and what is written for it.
-/

/-! ### Declarations with a type -/

namespace Xml.Element

/-- The last `<ptype>`, which is the type of a parameter if there is one, is not blank. -/
def TypesValue (e : Element) : Prop :=
  ∀ tagged ∈ (e.elements "ptype").getLast?, NonBlank tagged.content

/-- Some `<ptype>`, or some text in front of the name, is not blank. -/
def TypesReturn (e : Element) : Prop :=
  (∃ tagged ∈ e.elements "ptype", NonBlank tagged.content)
    ∨ ∃ text ∈ Declaration.leadingTexts e, NonBlank text

/-- The first `<proto>` and all `<param>`s of a command say their types. -/
structure TypesCommand (e : Element) : Prop where
  proto : ∀ proto ∈ (e.elements "proto").head?, proto.TypesReturn
  params : ∀ param ∈ e.elements "param", param.TypesValue

/-- No `<ptype>` in an element is blank. -/
def TagsTypes (e : Element) : Prop :=
  ∀ tagged ∈ e.elements "ptype", NonBlank tagged.content

/-- No `<ptype>` in the first `<proto>` and the `<param>`s of a command is blank. -/
@[mk_iff]
structure TagsCommand (e : Element) : Prop where
  proto : ∀ proto ∈ (e.elements "proto").head?, proto.TagsTypes
  params : ∀ param ∈ e.elements "param", param.TagsTypes

-- by what trimming leaves, so that no search among all characters is run
instance (e : Element) : Decidable e.TagsTypes :=
  decidable_of_iff (∀ tagged ∈ e.elements "ptype", trim tagged.content ≠ "")
    (forall₂_congr fun _ _ => trim_ne_empty)

instance (e : Element) : Decidable e.TagsCommand :=
  decidable_of_iff ((∀ proto ∈ (e.elements "proto").head?, proto.TagsTypes)
    ∧ ∀ param ∈ e.elements "param", param.TagsTypes) (tagsCommand_iff e).symm

/-- The elements of commands, section by section. -/
def commandElements (root : Element) : List Element :=
  (root.elements "commands").flatMap (·.elements "command")

end Xml.Element

/-- The return type and the base type of each parameter are not blank. -/
structure Command.IsTyped (c : Command) : Prop where
  returnType : NonBlank c.returnType
  params : ∀ p ∈ c.params, NonBlank p.base

/-- All commands are typed. -/
def Registry.IsTyped (r : Registry) : Prop :=
  ∀ c ∈ r.commands, c.IsTyped

/-! ### What is read of a declaration -/

namespace Declaration

variable {e : Element}

/-- Words of which there is one are not blank when they are joined. -/
theorem nonBlank_spaced {keep : List Char → Bool} {base : String}
    (h : spaced? ((leadingWords e).filter keep) = some base) : NonBlank base := by
  rw [spaced?] at h
  split at h
  · cases h
  · rename_i hne
    obtain rfl := Option.some.inj h
    obtain ⟨w, hw⟩ := List.exists_mem_of_ne_nil _ hne
    -- a word is a run without white space
    have hword : w ∈ leadingWords e := List.mem_of_mem_filter hw
    rw [leadingWords_eq] at hword
    obtain ⟨text, -, hrun⟩ := List.mem_flatMap.mp hword
    obtain ⟨hnil, hinner⟩ := (runs_wordsOf text).of_mem hrun
    obtain ⟨c, hc⟩ := List.exists_mem_of_ne_nil w hnil
    have hblank : isBlank c = false := (Bool.or_eq_false_iff.mp (hinner c hc)).1
    refine nonBlank_intercalate.mpr ⟨String.ofList w, List.mem_map_of_mem hw, c, ?_, hblank⟩
    rwa [String.toList_ofList]

/-- The base type of a parameter is blank exactly when its last `<ptype>` is. -/
theorem nonBlank_base {p : Parameter} (h : Parameter.ofElement e = .ok p) :
    NonBlank p.base ↔ e.TypesValue := by
  obtain ⟨-, hbase, -⟩ := parameter_ofElement_eq_ok.mp h
  rw [base?_ofElement] at hbase
  rw [Element.TypesValue]
  -- a tag takes precedence over words, even if it is blank
  cases htagged : (e.elements "ptype").getLast? with
  | some tagged =>
    rw [htagged] at hbase
    have htrim : trim tagged.content = p.base := Option.some.inj hbase
    rw [← htrim, nonBlank_trim]
    simp
  | none =>
    rw [htagged] at hbase
    have hwords : NonBlank p.base := nonBlank_spaced hbase
    simp [hwords]

/-- The pieces in one node: the text of a `<ptype>`, or a text that is not blank. -/
theorem mem_piecesIn {n : Node} {s : String} :
    s ∈ piecesIn n ↔ taggedText? "ptype" n = some s
      ∨ ∃ text ∈ textOf? n, NonBlank text ∧ trim text = s := by
  cases n <;> simp [piecesIn, taggedText?, textOf?, nonBlank?_eq]

/-- The pieces of a full type are the texts of each `<ptype>`, blank ones included, and the texts in
front of the name that are not blank. -/
theorem mem_typePieces {s : String} :
    s ∈ typePieces e ↔ (∃ tagged ∈ e.elements "ptype", trim tagged.content = s)
      ∨ ∃ text ∈ leadingTexts e, NonBlank text ∧ trim text = s := by
  have htagged : (∃ tagged ∈ e.elements "ptype", trim tagged.content = s)
      ↔ ∃ n ∈ e.children, taggedText? "ptype" n = some s := by
    rw [← List.mem_map, ← filterMap_taggedText?, List.mem_filterMap]
  have hchildren : e.children = leading e ++ trailing e := List.takeWhile_append_dropWhile.symm
  rw [typePieces, List.mem_append, List.mem_flatMap, List.mem_flatMap, htagged, hchildren,
    leadingTexts]
  simp only [mem_piecesIn, List.mem_append, List.mem_filterMap, Option.mem_toList, Option.mem_def]
  -- a `<ptype>` counts on either side of the name, a text only in front of it
  constructor
  · rintro (⟨n, hn, hpiece | ⟨text, htext, hs⟩⟩ | ⟨n, hn, hpiece⟩)
    · exact .inl ⟨n, .inl hn, hpiece⟩
    · exact .inr ⟨text, ⟨n, hn, htext⟩, hs⟩
    · exact .inl ⟨n, .inr hn, hpiece⟩
  · rintro (⟨n, hn | hn, hpiece⟩ | ⟨text, ⟨n, hn, htext⟩, hs⟩)
    · exact .inl ⟨n, hn, .inl hpiece⟩
    · exact .inr ⟨n, hn, hpiece⟩
    · exact .inl ⟨n, hn, .inr ⟨text, htext, hs⟩⟩

/-- A full type is blank when nothing that it is joined from says something. -/
theorem nonBlank_joinedType : NonBlank (joinedType e) ↔ e.TypesReturn := by
  rw [joinedType, nonBlank_intercalate, Element.TypesReturn]
  -- what is not blank stands in some piece, and a piece in a tag or a text
  constructor
  · rintro ⟨s, hs, hblank⟩
    rcases mem_typePieces.mp hs with ⟨tagged, htagged, rfl⟩ | ⟨text, htext, hkept, -⟩
    · exact .inl ⟨tagged, htagged, nonBlank_trim.mp hblank⟩
    · exact .inr ⟨text, htext, hkept⟩
  · rintro (⟨tagged, htagged, hblank⟩ | ⟨text, htext, hblank⟩)
    · exact ⟨_, mem_typePieces.mpr (.inl ⟨tagged, htagged, rfl⟩), nonBlank_trim.mpr hblank⟩
    · exact ⟨_, mem_typePieces.mpr (.inr ⟨text, htext, hblank, rfl⟩), nonBlank_trim.mpr hblank⟩

/-- Where no `<ptype>` is blank, a full type that is not empty says something. -/
theorem typesReturn_of_tagsTypes (htags : e.TagsTypes) (hne : joinedType e ≠ "") :
    e.TypesReturn := by
  have hpieces : typePieces e ≠ [] := by
    intro hnil
    rw [joinedType, hnil] at hne
    exact hne rfl
  -- there is a piece, and blank texts are none
  obtain ⟨s, hs⟩ := List.exists_mem_of_ne_nil _ hpieces
  rcases mem_typePieces.mp hs with ⟨tagged, htagged, -⟩ | ⟨text, htext, hkept, -⟩
  · exact .inl ⟨tagged, htagged, htags tagged htagged⟩
  · exact .inr ⟨text, htext, hkept⟩

end Declaration

/-- Where no `<ptype>` is blank, the last one is not. -/
theorem Xml.Element.TagsTypes.typesValue {e : Element} (h : e.TagsTypes) : e.TypesValue :=
  fun tagged htagged => h tagged (List.mem_of_mem_getLast? htagged)

/-! ### Commands and their elements -/

/-- A command and the element it is read from: a type of the one is blank where the other says none,
and what the return type is joined from is not empty. -/
structure ReadTyped (e : Element) (c : Command) : Prop where
  returnType : ∃ proto ∈ (e.elements "proto").head?,
    Declaration.joinedType proto ≠ "" ∧ (NonBlank c.returnType ↔ proto.TypesReturn)
  params : List.Forall₂ (fun param (p : Parameter) => NonBlank p.base ↔ param.TypesValue)
    (e.elements "param") c.params

/-- A command is read with the types its element says. -/
theorem readTyped_command {namespaceName : String} {e : Element} {c : Command}
    (h : Command.ofElement namespaceName e = .ok c) : ReadTyped e c := by
  obtain ⟨proto, hproto, -, ⟨htype, hne⟩, -, -, hparams, -⟩ :=
    Declaration.command_ofElement_eq_ok.mp h
  constructor
  case returnType =>
    exact ⟨proto, hproto, htype ▸ hne, htype ▸ Declaration.nonBlank_joinedType⟩
  case params =>
    exact (mapM_eq_ok.mp hparams).imp fun param p hp => Declaration.nonBlank_base hp

/-- The commands of a registry are read from the elements of commands, one for one. -/
theorem readTyped_commands {root : Element} {r : Registry} (h : Registry.ofElement root = .ok r) :
    List.Forall₂ ReadTyped root.commandElements r.commands := by
  obtain ⟨-, -, ⟨sections, hsections, hcommands⟩, -⟩ := sections_of_registry_ofElement h
  -- within a section, the commands correspond one for one
  have hsection : ∀ part commands, commandsOf part = .ok commands →
      List.Forall₂ ReadTyped (part.elements "command") commands := by
    intro part commands hpart
    rw [commandsOf, bind_eq_ok] at hpart
    obtain ⟨namespaceName, -, hread⟩ := hpart
    exact (mapM_eq_ok.mp hread).imp fun e c => readTyped_command
  rw [Element.commandElements, List.flatMap_def, hcommands]
  refine List.rel_flatten ?_
  rw [List.forall₂_map_left_iff]
  exact (mapM_eq_ok.mp hsections).imp hsection

namespace ReadTyped

variable {e : Element} {c : Command}

/-- A command that is read has all its types exactly if its element says all of them. -/
theorem isTyped_iff (h : ReadTyped e c) : c.IsTyped ↔ e.TypesCommand := by
  obtain ⟨proto, hproto, -, hreturn⟩ := h.returnType
  have hparams : (∀ p ∈ c.params, NonBlank p.base)
      ↔ ∀ param ∈ e.elements "param", param.TypesValue := forall_iff_of_forall₂ h.params
  -- the return types belong together, and the parameters pair by pair
  constructor
  · rintro ⟨htype, hbases⟩
    refine ⟨fun other hother => ?_, hparams.mp hbases⟩
    rw [Option.mem_unique hother hproto]
    exact hreturn.mp htype
  · rintro ⟨hprotos, hvalues⟩
    exact ⟨hreturn.mpr (hprotos proto hproto), hparams.mpr hvalues⟩

/-- Where no `<ptype>` is blank, the checks leave no command without a type. -/
theorem typesCommand (h : ReadTyped e c) (htags : e.TagsCommand) : e.TypesCommand := by
  obtain ⟨proto, hfirst, hne, -⟩ := h.returnType
  refine ⟨fun other hother => ?_, fun param hparam => (htags.params param hparam).typesValue⟩
  rw [Option.mem_unique hother hfirst]
  exact Declaration.typesReturn_of_tagsTypes (htags.proto proto hfirst) hne

end ReadTyped

/-- A registry and the tree that it is read from, type by type. -/
structure TypesRead (root : Element) (r : Registry) : Prop where
  /-- A type of a command is blank exactly where its element says none. -/
  commands : List.Forall₂ ReadTyped root.commandElements r.commands
  /-- All types are there exactly when all elements say theirs. -/
  typed : r.IsTyped ↔ ∀ e ∈ root.commandElements, e.TypesCommand
  /-- They are where no `<ptype>` is blank. -/
  tagged : (∀ e ∈ root.commandElements, e.TagsCommand) → r.IsTyped

/-- The commands that are read decide about the types of the registry. -/
theorem typesRead_of_ofElement {root : Element} {r : Registry} (h : Registry.ofElement root = .ok r) :
    TypesRead root r := by
  have hcommands : List.Forall₂ ReadTyped root.commandElements r.commands := readTyped_commands h
  have htyped : r.IsTyped ↔ ∀ e ∈ root.commandElements, e.TypesCommand :=
    forall_iff_of_forall₂ (hcommands.imp fun e c => ReadTyped.isTyped_iff)
  refine ⟨hcommands, htyped, fun htags => htyped.mpr ?_⟩
  -- the checks are on record in each pair of an element and a command
  have hpairs := (List.forall₂_and_left _ _).mpr ⟨htags, hcommands⟩
  have htypes : List.Forall₂ (fun e c => e.TypesCommand ∧ ReadTyped e c)
      root.commandElements r.commands := hpairs.imp fun e c h => ⟨h.2.typesCommand h.1, h.2⟩
  exact ((List.forall₂_and_left _ _).mp htypes).1

/-- **Types.**  Whatever tree of elements is read, a return type or a base type is blank exactly where
the element of its command says none, so all types are there exactly when all elements say them.  They
do so where no `<ptype>` is blank.  This holds in particular of the tree of every document that is
read. -/
theorem registry_typed (r : Registry) :
    (∀ root, Registry.ofElement root = .ok r → TypesRead root r)
    ∧ ∀ file text, Registry.parse file text = .ok r →
      ∃ root, Xml.Document.parse text = .ok root ∧ TypesRead root r := by
  refine ⟨fun root h => typesRead_of_ofElement h, fun file text h => ?_⟩
  obtain ⟨root, hparse, hread⟩ := registry_parse_eq_ok.mp h
  exact ⟨root, hparse, typesRead_of_ofElement hread⟩

/-- A tagged type of a return value, and words for the type of a parameter. -/
def typed : String :=
  "<registry><types/><commands namespace='GL'><command><proto><ptype>GLint</ptype> *"
    ++ "<name>f</name></proto><param>int<name>x</name></param></command></commands></registry>"

theorem parse_typed : (Xml.Document.parse typed).toOption.map (fun root =>
    ((Registry.ofElement root).toOption.map fun r => r.commands.map (·.returnType),
      decide (∀ e ∈ root.commandElements, e.TagsCommand))) = some (some ["GLint *"], true) := by
  decide +kernel

/-- Tagged as it is, the document has all its types. -/
theorem registry_typed_tagged : ∃ r, Registry.parse "gl.xml" typed = .ok r
    ∧ r.commands.map (·.returnType) = ["GLint *"] ∧ r.IsTyped := by
  obtain ⟨root, hparse, hread⟩ := toOption_map_eq_some.mp parse_typed
  obtain ⟨hread, htags⟩ := Prod.mk.inj hread
  obtain ⟨r, hr, htypes⟩ := toOption_map_eq_some.mp hread
  have hregistry : Registry.parse "gl.xml" typed = .ok r :=
    registry_parse_eq_ok.mpr ⟨root, hparse, hr⟩
  obtain ⟨-, hdocument⟩ := registry_typed r
  obtain ⟨other, hother, htyped⟩ := hdocument "gl.xml" typed hregistry
  obtain rfl : root = other := Except.ok.inj (hparse.symm.trans hother)
  exact ⟨r, hregistry, htypes, htyped.tagged (of_decide_eq_true htags)⟩

/-- A parameter with an empty `<ptype>`. -/
def untyped : String :=
  "<registry><types/><commands namespace='GL'><command><proto>void <name>glFoo</name></proto>"
    ++ "<param><ptype/><name>x</name></param></command></commands></registry>"

/-- A command with two empty `<ptype>`s, between which there is a space when they are joined. -/
def untypedReturn : Element :=
  ⟨"command", [], ⟨0, 0⟩, [.element "proto" [] ⟨0, 0⟩ [.element "ptype" [] ⟨0, 0⟩ [],
    .element "ptype" [] ⟨0, 0⟩ [], .element "name" [] ⟨0, 0⟩ [.text "glFoo"]]]⟩

theorem parse_untyped : (Registry.parse "gl.xml" untyped).toOption.map (·.commands)
    = some [⟨"glFoo", "void", none, none, [⟨"x", "", false, 0, none, none, none⟩], "GL", none⟩] := by
  decide +kernel

/-- Not every registry that is read has all its types: what is written for a command without them is
no declaration. -/
theorem loads_untyped :
    (∃ r, Registry.parse "gl.xml" untyped = .ok r ∧ ¬ r.IsTyped
      ∧ r.commands.map (fun c => (Pointer.ofCommand c).typedef)
        = ["typedef GLAPI void (GLCALLCONV *PFNGLFOOPROC)( x);"])
    ∧ ∃ c, Command.ofElement "GL" untypedReturn = .ok c ∧ ¬ c.IsTyped ∧ c.returnType = " " := by
  obtain ⟨r, hr, hcommands⟩ := toOption_map_eq_some.mp parse_untyped
  refine ⟨⟨r, hr, ?_, ?_⟩, ?_⟩
  · -- the base type of the only parameter is empty
    intro htyped
    rw [Registry.IsTyped, hcommands] at htyped
    have hbase : NonBlank "" := (htyped _ List.mem_cons_self).params _ List.mem_cons_self
    exact absurd (by decide) (trim_ne_empty.mpr hbase)
  · rw [hcommands]
    decide +kernel
  · refine ⟨⟨"glFoo", " ", some "", none, [], "GL", none⟩, by decide, fun htyped => ?_, rfl⟩
    exact absurd (by decide) (trim_ne_empty.mpr htyped.returnType)

end GLBindings
