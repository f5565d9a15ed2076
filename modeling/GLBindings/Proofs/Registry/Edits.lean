import GLBindings.Proofs.Registry.Acceptance
import GLBindings.Proofs.Registry.Places
import GLBindings.Proofs.Traversal
import Mathlib.Logic.Relation

namespace GLBindings

open GLBindings.Text
open GLBindings.Xml (Attribute Element Node elementsOf elementsOf_append elementsOf_cons_element
  elementsOf_cons_of_not unplacedAll)

/-!
# Edits — changes of a document that are not seen

Of the children of a registry and of its sections only those with certain tags are read, and of the
children with one tag only their order among themselves matters.  This file says which edits of a
document change nothing else, and proves that a document is read alike after any number of them.

* `Level` — the elements whose children are looked up by tags; `Level.leaves`, `Level.inner`,
  `Level.reads` — the tags that are read there.
* `Edit` — one edit of the children of an element.
* `SameReading` — two elements that are read alike at their level.
* `SameReading.of_children`, `SameReading.of_elementsOf` — an element is read through its children
  with certain tags.
* `sameReading_split_types`, `sameReading_split_commands` — a section may be read in two parts.
* `Edit.sameReading` — one edit is not seen, where it is made and at every level above.
* `registry_edited` — no run of edits is seen.
-/

/-! ### Levels -/

/-- The elements of a registry whose children are looked up by their tags. -/
inductive Level where
  | registry
  | types
  | enums
  | commands
  | command
  | feature
  | require
  | remove
  deriving DecidableEq

namespace Level

/-- Tags of children that are read with all that is in them. -/
def leaves : Level → List String
  | types => ["type"]
  | enums => ["enum"]
  | command => ["proto", "param", "alias"]
  | require => ["enum", "command", "type"]
  | remove => ["enum", "command"]
  | registry => []
  | commands => []
  | feature => []

/-- Tags of children whose own children are looked up by their tags. -/
def inner : Level → List (String × Level)
  | registry => [("types", types), ("enums", enums), ("commands", commands), ("feature", feature)]
  | commands => [("command", command)]
  | feature => [("require", require), ("remove", remove)]
  | _ => []

/-- The tags that are read. -/
def reads (level : Level) : List String :=
  level.leaves ++ level.inner.map Prod.fst

/-- How many levels there are below. -/
def height : Level → Nat
  | registry => 2
  | commands => 1
  | feature => 1
  | _ => 0

/-- A level leads down to lower ones only. -/
theorem height_lt (level : Level) : ∀ p ∈ level.inner, p.2.height < level.height := by
  cases level <;> decide

/-- A tag leads from a level to one other level. -/
theorem inner_unique (level : Level) :
    ∀ p ∈ level.inner, ∀ q ∈ level.inner, p.1 = q.1 → p = q := by
  cases level <;> decide

/-- A tag leads to another level or is read as it stands, never both. -/
theorem not_mem_leaves (level : Level) : ∀ p ∈ level.inner, p.1 ∉ level.leaves := by
  cases level <;> decide

end Level

/-! ### Edits -/

/-- One edit of the children of an element at a level. -/
inductive Edit : Level → List Node → List Node → Prop where
  /-- A comment, a text or an element with a tag that is not read there comes in. -/
  | insert {level : Level} (before after : List Node) {n : Node}
      (h : ∀ tag ∈ level.reads, n.hasTag tag = false) :
      Edit level (before ++ after) (before ++ n :: after)
  /-- The children change places, but those with one tag keep their order. -/
  | reorder {level : Level} {ns ms : List Node} (h : ns.Perm ms)
      (htags : ∀ tag, ns.filter (Node.hasTag tag) = ms.filter (Node.hasTag tag)) :
      Edit level ns ms
  /-- A section of types or of commands is cut in two. -/
  | split {tag : String} (h : tag = "types" ∨ tag = "commands") (before after : List Node)
      (attributes : List Attribute) (span span₁ span₂ : Span) (ns ms : List Node) :
      Edit .registry (before ++ .element tag attributes span (ns ++ ms) :: after)
        (before ++ .element tag attributes span₁ ns :: .element tag attributes span₂ ms :: after)
  /-- The children of a child are edited. -/
  | inside {level below : Level} {tag : String} (h : (tag, below) ∈ level.inner)
      (before after : List Node) (attributes : List Attribute) (span span' : Span)
      {ns ms : List Node} (edit : Edit below ns ms) :
      Edit level (before ++ .element tag attributes span ns :: after)
        (before ++ .element tag attributes span' ms :: after)
  /-- The elements stand in other places of the document. -/
  | places {level : Level} {ns ms : List Node} (h : unplacedAll ns = unplacedAll ms) :
      Edit level ns ms

/-- Two roots that differ by edits of what is in them: any number of them, made or taken back. -/
structure Edited (root root' : Element) : Prop where
  head : SameHead root root'
  children : Relation.EqvGen (Edit .registry) root.children root'.children

/-! ### Elements that are read alike -/

/-- Two elements that are read alike at their level. -/
def SameReading : Level → Element → Element → Prop
  | .registry, e, e' => Alike (Registry.ofElement e) (Registry.ofElement e')
  | .types, e, e' => Alike ((e.elements "type").mapM TypeDef.ofElement)
      ((e'.elements "type").mapM TypeDef.ofElement)
  | .enums, e, e' => Alike (Collection.ofElement e) (Collection.ofElement e')
  | .commands, e, e' => Alike (commandsOf e) (commandsOf e')
  | .command, e, e' => ∀ namespaceName,
      Alike (Command.ofElement namespaceName e) (Command.ofElement namespaceName e')
  | .feature, e, e' => Alike (Feature.ofElement e) (Feature.ofElement e')
  | .require, e, e' => Alike (RequireBlock.ofElement e) (RequireBlock.ofElement e')
  | .remove, e, e' => Alike (RemoveBlock.ofElement e) (RemoveBlock.ofElement e')

/-- Two elements that differ in places at most. -/
def SameUnplaced (e e' : Element) : Prop :=
  e.unplaced = e'.unplaced

section Readers

variable {e e' : Element}

/-- A collection is read from its attributes and its constants. -/
theorem alike_collection (hhead : SameHead e e')
    (hconstants : List.Forall₂ SameUnplaced (e.elements "enum") (e'.elements "enum")) :
    Alike (Collection.ofElement e) (Collection.ofElement e') := by
  refine (hhead.requiredText "namespace").bind fun namespaceName => ?_
  -- the other attributes are optional, and read the same
  simp only [hhead.attributeText?_eq]
  refine (Alike.mapM ?_).bind fun constants => .refl _
  exact hconstants.imp fun c c' hc => (SameHead.of_unplaced hc).constant

/-- A command is read from its prototype, parameters and alias: nothing else inside it counts. -/
theorem alike_command (namespaceName : String)
    (hprotos : List.Forall₂ SameUnplaced (e.elements "proto") (e'.elements "proto"))
    (hparams : List.Forall₂ SameUnplaced (e.elements "param") (e'.elements "param"))
    (haliases : List.Forall₂ SameUnplaced (e.elements "alias") (e'.elements "alias")) :
    Alike (Command.ofElement namespaceName e) (Command.ofElement namespaceName e') := by
  -- only the first alias counts, if there is one
  have halias : (e.elements "alias").head?.bind (attributeText? · "name")
      = (e'.elements "alias").head?.bind (attributeText? · "name") := by
    generalize e.elements "alias" = as, e'.elements "alias" = as' at haliases
    cases haliases with
    | nil => rfl
    | cons ha _ => exact (SameHead.of_unplaced ha).attributeText?_eq "name"
  rw [Command.ofElement, Command.ofElement, halias]
  -- and only the first prototype, which must be there
  generalize e.elements "proto" = ps, e'.elements "proto" = ps' at hprotos
  cases hprotos with
  | nil => exact .error rfl
  | cons hp _ =>
    refine (alike_declarationOf hp "command").bind fun a => ?_
    obtain ⟨d, name⟩ := a
    simp only [(SameHead.of_unplaced hp).attributeText?_eq]
    split
    · exact .error rfl
    · refine (Alike.mapM ?_).bind fun params => .refl _
      exact hparams.imp fun p p' => alike_parameter

/-- The references of one tag are read from the elements of that tag. -/
theorem alike_namesOf {tag : String}
    (h : List.Forall₂ SameUnplaced (e.elements tag) (e'.elements tag)) :
    Alike (namesOf e tag) (namesOf e' tag) := by
  refine (Alike.mapM ?_).bind fun names => .refl _
  exact h.imp fun n n' hn => (SameHead.of_unplaced hn).requiredText "name"

/-- A block of requirements is read from its attributes and its references. -/
theorem alike_requireBlock (hhead : SameHead e e')
    (h : ∀ tag, tag ∈ Level.require.leaves →
      List.Forall₂ SameUnplaced (e.elements tag) (e'.elements tag)) :
    Alike (RequireBlock.ofElement e) (RequireBlock.ofElement e') := by
  have hnames : ∀ tag, tag ∈ Level.require.leaves → Alike (namesOf e tag) (namesOf e' tag) :=
    fun tag htag => alike_namesOf (h tag htag)
  simp only [RequireBlock.ofElement, hhead.attributeText?_eq]
  exact (hnames "enum" (by decide)).bind fun enums => (hnames "command" (by decide)).bind
    fun commands => (hnames "type" (by decide)).bind fun types => .refl _

/-- A block of removals is read from its attributes and its references. -/
theorem alike_removeBlock (hhead : SameHead e e')
    (h : ∀ tag, tag ∈ Level.remove.leaves →
      List.Forall₂ SameUnplaced (e.elements tag) (e'.elements tag)) :
    Alike (RemoveBlock.ofElement e) (RemoveBlock.ofElement e') := by
  have hnames : ∀ tag, tag ∈ Level.remove.leaves → Alike (namesOf e tag) (namesOf e' tag) :=
    fun tag htag => alike_namesOf (h tag htag)
  simp only [RemoveBlock.ofElement, hhead.attributeText?_eq]
  exact (hnames "enum" (by decide)).bind fun enums => (hnames "command" (by decide)).bind
    fun commands => .refl _

/-- The number of a feature is read from its attributes. -/
theorem alike_featureNumber (hhead : SameHead e e') :
    Alike (featureNumber e) (featureNumber e') := by
  refine (hhead.requiredText "number").bind fun number => ?_
  -- the same text is parsed, so a failure has the same cause
  cases Version.parse? number with
  | ok v => exact .refl _
  | error cause => exact .error rfl

/-- A feature is read from its attributes and what its blocks are read as. -/
theorem alike_feature (hhead : SameHead e e')
    (hrequires : List.Forall₂ (SameReading .require) (e.elements "require")
      (e'.elements "require"))
    (hremoves : List.Forall₂ (SameReading .remove) (e.elements "remove") (e'.elements "remove")) :
    Alike (Feature.ofElement e) (Feature.ofElement e') :=
  (alike_featureNumber hhead).bind fun _ => (hhead.requiredText "api").bind fun _ =>
    (hhead.requiredText "name").bind fun _ => (Alike.mapM hrequires).bind fun _ =>
    (Alike.mapM hremoves).bind fun _ => .refl _

/-- The commands of some sections. -/
def commandsOfAll (parts : List Element) : Except Fault (List Command) :=
  (parts.mapM commandsOf).map List.flatten

/-- The commands of several lists are read one list after the other. -/
theorem commandsOfAll_cons (part : Element) (parts : List Element) :
    commandsOfAll (part :: parts)
      = commandsOf part >>= fun cs => (commandsOfAll parts).map (cs ++ ·) := by
  rw [commandsOfAll, List.mapM_cons, map_bind]
  refine congrArg _ (funext fun cs => ?_)
  rw [commandsOfAll, map_bind]
  cases parts.mapM commandsOf <;> rfl

/-- To read the lists in two portions is to read them all, the first error included. -/
theorem commandsOfAll_append (parts others : List Element) :
    commandsOfAll (parts ++ others)
      = commandsOfAll parts >>= fun cs => (commandsOfAll others).map (cs ++ ·) := by
  rw [commandsOfAll, List.mapM_append, map_bind, commandsOfAll, bind_map]
  refine congrArg _ (funext fun lists => ?_)
  rw [commandsOfAll, map_bind]
  -- an error of the second portion is one of both together
  cases others.mapM commandsOf with
  | ok others => exact congrArg Except.ok List.flatten_append
  | error f => rfl

/-- A registry is read through its types, constants, commands and features, however these are
divided up. -/
theorem alike_registry (htag : e.tag = e'.tag)
    (hnoTypes : e.elements "types" = [] ↔ e'.elements "types" = [])
    (hnoCommands : e.elements "commands" = [] ↔ e'.elements "commands" = [])
    (htypes : Alike (((e.elements "types").flatMap (·.elements "type")).mapM TypeDef.ofElement)
      (((e'.elements "types").flatMap (·.elements "type")).mapM TypeDef.ofElement))
    (hcollections : List.Forall₂ (SameReading .enums) (e.elements "enums") (e'.elements "enums"))
    (hcommands : Alike (commandsOfAll (e.elements "commands"))
      (commandsOfAll (e'.elements "commands")))
    (hfeatures : List.Forall₂ (SameReading .feature) (e.elements "feature")
      (e'.elements "feature")) :
    Alike (Registry.ofElement e) (Registry.ofElement e') := by
  simp only [Registry.ofElement, htag, List.isEmpty_iff, hnoTypes, hnoCommands]
  split
  · exact .error rfl
  split
  · exact .error rfl
  split
  · exact .error rfl
  -- all checks of the root have passed on both sides
  refine htypes.bind fun types => (Alike.mapM hcollections).bind fun collections => ?_
  have hrest := hcommands.bind fun commands => (Alike.mapM hfeatures).bind fun features =>
    Alike.refl (pure (Registry.mk types collections commands features))
  simpa only [commandsOfAll, bind_map] using hrest

end Readers

/-! ### What an element is read through -/

namespace SameReading

variable {level : Level} {e e' : Element}

protected theorem refl (level : Level) (e : Element) : SameReading level e e := by
  cases level <;> first | exact Alike.refl _ | exact fun _ => Alike.refl _

/-- **Children by tags.**  An element is read through its children with the tags that are read:
through all of some, through the readings of others. -/
theorem of_children (hhead : SameHead e e')
    (hleaves : ∀ tag ∈ level.leaves,
      List.Forall₂ SameUnplaced (e.elements tag) (e'.elements tag))
    (hinner : ∀ p ∈ level.inner,
      List.Forall₂ (SameReading p.2) (e.elements p.1) (e'.elements p.1)) :
    SameReading level e e' := by
  cases level with
  | registry =>
    -- the sections of types and commands must be there, so their numbers count too
    have htypes : List.Forall₂ (SameReading .types) _ _ := hinner ("types", .types) (by decide)
    have hcommands : List.Forall₂ (SameReading .commands) _ _ :=
      hinner ("commands", .commands) (by decide)
    refine alike_registry hhead.tag ?_ ?_ ?_ (hinner ("enums", .enums) (by decide)) ?_
      (hinner ("feature", .feature) (by decide))
    · rw [← List.length_eq_zero_iff, htypes.length_eq, List.length_eq_zero_iff]
    · rw [← List.length_eq_zero_iff, hcommands.length_eq, List.length_eq_zero_iff]
    · rw [mapM_flatMap, mapM_flatMap]
      exact (Alike.mapM htypes).map List.flatten
    · exact (Alike.mapM hcommands).map List.flatten
  | types => exact Alike.mapM ((hleaves "type" (by decide)).imp fun t t' => alike_typeDef)
  | enums => exact alike_collection hhead (hleaves "enum" (by decide))
  | commands =>
    refine (hhead.requiredText "namespace").bind fun namespaceName => Alike.mapM ?_
    exact (hinner ("command", .command) (by decide)).imp fun c c' hc => hc namespaceName
  | command =>
    exact fun namespaceName => alike_command namespaceName (hleaves "proto" (by decide))
      (hleaves "param" (by decide)) (hleaves "alias" (by decide))
  | feature =>
    exact alike_feature hhead (hinner ("require", .require) (by decide))
      (hinner ("remove", .remove) (by decide))
  | require => exact alike_requireBlock hhead hleaves
  | remove => exact alike_removeBlock hhead hleaves

/-- Elements that differ in places are read alike. -/
theorem of_unplaced (h : SameUnplaced e e') : SameReading level e e' := by
  -- by induction on the levels below
  induction hheight : level.height using Nat.strongRecOn generalizing level e e' with
  | _ n ih =>
    -- children of each tag correspond one for one, again up to places
    have hchildren : ∀ tag, List.Forall₂ SameUnplaced (e.elements tag) (e'.elements tag) := by
      intro tag
      have heq : (e.elements tag).map Element.unplaced = (e'.elements tag).map Element.unplaced := by
        rw [← Element.elements_unplaced, ← Element.elements_unplaced, h]
      rw [← List.forall₂_eq_eq_eq, List.forall₂_map_left_iff, List.forall₂_map_right_iff] at heq
      exact heq
    refine of_children (.of_unplaced h) (fun tag _ => hchildren tag) fun p hp => ?_
    have hlt : p.2.height < n := hheight ▸ level.height_lt p hp
    exact (hchildren p.1).imp fun c c' hc => ih p.2.height hlt hc rfl

/-- An element is read through its children with the tags that are read, whatever else there is in
it and wherever it stands. -/
theorem of_elementsOf {tag : String} {attributes : List Attribute} {span span' : Span}
    {ns ms : List Node} (h : ∀ t ∈ level.reads, elementsOf t ns = elementsOf t ms) :
    SameReading level ⟨tag, attributes, span, ns⟩ ⟨tag, attributes, span', ms⟩ := by
  refine of_children ⟨rfl, rfl⟩ (fun t ht => ?_) fun p hp => ?_
  · rw [Element.elements_eq, Element.elements_eq, h t (List.mem_append_left _ ht)]
    exact List.forall₂_same.mpr fun _ _ => rfl
  · have hp' : p.1 ∈ level.reads := List.mem_append_right _ (List.mem_map_of_mem hp)
    rw [Element.elements_eq, Element.elements_eq, h p.1 hp']
    exact List.forall₂_same.mpr fun c _ => SameReading.refl p.2 c

end SameReading

/-! ### One edit -/

/-- An element of another tag is passed over. -/
theorem elementsOf_cons_ne {t tag : String} (h : t ≠ tag) (attributes : List Attribute)
    (span : Span) (ns ms : List Node) :
    elementsOf t (.element tag attributes span ns :: ms) = elementsOf t ms :=
  elementsOf_cons_of_not (by simpa [Node.hasTag] using h.symm) ms

/-- A section of commands may be read in two parts. -/
theorem alike_split_commands (tag : String) (attributes : List Attribute)
    (span span₁ span₂ : Span) (ns ms : List Node) :
    Alike (commandsOfAll [⟨tag, attributes, span, ns ++ ms⟩])
      (commandsOfAll [⟨tag, attributes, span₁, ns⟩, ⟨tag, attributes, span₂, ms⟩]) := by
  rw [commandsOfAll_cons, commandsOfAll_cons]
  -- both parts have the namespace of the section, or lack it alike
  cases hvalue : attributeText? ⟨tag, attributes, span, ns ++ ms⟩ "namespace" with
  | none =>
    have hfirst : attributeText? ⟨tag, attributes, span₁, ns⟩ "namespace" = none := hvalue
    rw [commandsOf, commandsOf, requiredText, requiredText, hvalue, hfirst]
    exact .error rfl
  | some namespaceName =>
    -- with the namespace known, a section is no more than its commands
    have hread : ∀ q : Element, attributeText? q "namespace" = some namespaceName →
        commandsOf q = (elementsOf "command" q.children).mapM (Command.ofElement namespaceName) := by
      intro q hq
      rw [commandsOf, requiredText, hq, Element.elements_eq]
      rfl
    rw [hread _ hvalue, hread ⟨tag, attributes, span₁, ns⟩ hvalue, elementsOf_append,
      List.mapM_append, commandsOfAll_cons, hread ⟨tag, attributes, span₂, ms⟩ hvalue]
    cases (elementsOf "command" ns).mapM (Command.ofElement namespaceName) with
    | error f => exact .error rfl
    | ok cs =>
      cases (elementsOf "command" ms).mapM (Command.ofElement namespaceName) with
      | error f => exact .error rfl
      | ok ds =>
        show Alike (.ok (cs ++ ds ++ [])) (.ok (cs ++ (ds ++ [])))
        rw [List.append_assoc]

section Split

variable (before after : List Node) (attributes : List Attribute) (span span₁ span₂ : Span)
  (ns ms : List Node) (t : String) (as : List Attribute) (s s' : Span)

/-- Elements of other tags stay whole when an element is cut in two. -/
theorem elementsOf_split_ne {u tag : String} (h : u ≠ tag) :
    elementsOf u (before ++ .element tag attributes span (ns ++ ms) :: after)
      = elementsOf u (before ++ .element tag attributes span₁ ns
        :: .element tag attributes span₂ ms :: after) := by
  rw [elementsOf_append, elementsOf_append, elementsOf_cons_ne h, elementsOf_cons_ne h,
    elementsOf_cons_ne h]

/-- A registry is read alike when one section of types is cut in two. -/
theorem sameReading_split_types :
    SameReading .registry
      ⟨t, as, s, before ++ .element "types" attributes span (ns ++ ms) :: after⟩
      ⟨t, as, s', before ++ .element "types" attributes span₁ ns
        :: .element "types" attributes span₂ ms :: after⟩ := by
  have hother : ∀ u, u ≠ "types" → _ := fun u hu =>
    elementsOf_split_ne before after attributes span span₁ span₂ ns ms hu
  -- the types of both parts are those of the section
  have htypes : (elementsOf "types" (before ++ .element "types" attributes span (ns ++ ms)
      :: after)).flatMap (fun e => elementsOf "type" e.children)
      = (elementsOf "types" (before ++ .element "types" attributes span₁ ns
        :: .element "types" attributes span₂ ms :: after)).flatMap
        (fun e => elementsOf "type" e.children) := by
    simp [elementsOf_append, elementsOf_cons_element]
  refine alike_registry rfl ?noTypes ?noCommands ?types ?collections ?commands ?features <;>
    simp only [Element.elements_eq]
  case noTypes => simp [elementsOf_append, elementsOf_cons_element]
  case noCommands => rw [hother "commands" (by decide)]
  case types => rw [htypes]
  case collections =>
    rw [hother "enums" (by decide)]
    exact List.forall₂_same.mpr fun e _ => SameReading.refl .enums e
  case commands => rw [hother "commands" (by decide)]
  case features =>
    rw [hother "feature" (by decide)]
    exact List.forall₂_same.mpr fun e _ => SameReading.refl .feature e

/-- A registry is read alike when one section of commands is cut in two. -/
theorem sameReading_split_commands :
    SameReading .registry
      ⟨t, as, s, before ++ .element "commands" attributes span (ns ++ ms) :: after⟩
      ⟨t, as, s', before ++ .element "commands" attributes span₁ ns
        :: .element "commands" attributes span₂ ms :: after⟩ := by
  have hother : ∀ u, u ≠ "commands" → _ := fun u hu =>
    elementsOf_split_ne before after attributes span span₁ span₂ ns ms hu
  refine alike_registry rfl ?noTypes ?noCommands ?types ?collections ?commands ?features <;>
    simp only [Element.elements_eq]
  case noTypes => rw [hother "types" (by decide)]
  case noCommands => simp [elementsOf_append, elementsOf_cons_element]
  case types => rw [hother "types" (by decide)]
  case collections =>
    rw [hother "enums" (by decide)]
    exact List.forall₂_same.mpr fun e _ => SameReading.refl .enums e
  case commands =>
    -- the commands of both parts are those of the section
    rw [elementsOf_append, elementsOf_append, elementsOf_cons_element, elementsOf_cons_element,
      elementsOf_cons_element, commandsOfAll_append, commandsOfAll_append]
    refine (Alike.refl _).bind fun cs => Alike.map ?_ (cs ++ ·)
    have hsection := alike_split_commands "commands" attributes span span₁ span₂ ns ms
    -- what stands behind the section is read in the same way as before
    have hwhole := hsection.bind fun ds =>
      Alike.refl ((commandsOfAll (elementsOf "commands" after)).map (ds ++ ·))
    rw [← commandsOfAll_append, ← commandsOfAll_append] at hwhole
    exact hwhole
  case features =>
    rw [hother "feature" (by decide)]
    exact List.forall₂_same.mpr fun e _ => SameReading.refl .feature e

end Split

/-- **One edit is not seen.**  Elements whose children differ by an edit are read alike. -/
theorem Edit.sameReading {level : Level} {ns ms : List Node} (h : Edit level ns ms) (tag : String)
    (attributes : List Attribute) (span span' : Span) :
    SameReading level ⟨tag, attributes, span, ns⟩ ⟨tag, attributes, span', ms⟩ := by
  induction h generalizing tag attributes span span' with
  | insert before after hn =>
    refine .of_elementsOf fun t ht => ?_
    -- what comes in has no tag that is read
    rw [elementsOf_append, elementsOf_append, elementsOf_cons_of_not (hn t ht)]
  | reorder _ htags =>
    refine .of_elementsOf fun t _ => ?_
    rw [elementsOf, elementsOf, htags]
  | split htag before after attrs sp sp₁ sp₂ ns ms =>
    rcases htag with rfl | rfl
    · exact sameReading_split_types before after attrs sp sp₁ sp₂ ns ms tag attributes span span'
    · exact sameReading_split_commands before after attrs sp sp₁ sp₂ ns ms tag attributes span
        span'
  | @inside level below inner hin before after attrs sp sp' ns ms _ ih =>
    refine .of_children ⟨rfl, rfl⟩ (fun t ht => ?leaf) fun p hp => ?level
    case leaf =>
      -- the edited child is not read as it stands
      have hne : t ≠ inner := by
        rintro rfl
        exact level.not_mem_leaves _ hin ht
      rw [Element.elements_eq, Element.elements_eq, elementsOf_append, elementsOf_append,
        elementsOf_cons_ne hne, elementsOf_cons_ne hne]
      exact List.forall₂_same.mpr fun _ _ => rfl
    case level =>
      have hsame : ∀ es : List Element, List.Forall₂ (SameReading p.2) es es :=
        fun es => List.forall₂_same.mpr fun c _ => SameReading.refl p.2 c
      rw [Element.elements_eq, Element.elements_eq, elementsOf_append, elementsOf_append]
      by_cases heq : p.1 = inner
      · -- the edited child is one of these
        obtain rfl : p = (inner, below) := level.inner_unique p hp _ hin heq
        rw [elementsOf_cons_element, elementsOf_cons_element]
        exact List.rel_append (hsame _) (.cons (ih inner attrs sp sp') (hsame _))
      · rw [elementsOf_cons_ne heq, elementsOf_cons_ne heq]
        exact hsame _
  | places hplaces =>
    refine .of_unplaced ?_
    rw [SameUnplaced, Element.unplaced, Element.unplaced, hplaces]

/-! ### Any number of edits -/

/-- A chain of edits, forward or back, is read the same when each single edit is. -/
theorem sameReading_of_eqvGen {ns ms : List Node} (h : Relation.EqvGen (Edit .registry) ns ms)
    (tag : String) (attributes : List Attribute) (span span' : Span) :
    SameReading .registry ⟨tag, attributes, span, ns⟩ ⟨tag, attributes, span', ms⟩ := by
  induction h generalizing span span' with
  | rel ns ms hedit => exact hedit.sameReading tag attributes span span'
  | refl ns => exact .of_elementsOf fun _ _ => rfl
  | symm ns ms _ ih => exact Alike.symm (ih span' span)
  | trans ns ms ks _ _ ih ih' => exact Alike.trans (ih span span) (ih' span span')

/-- Roots that differ by edits are read alike. -/
theorem Edited.alike {root root' : Element} (h : Edited root root') :
    Alike (Registry.ofElement root) (Registry.ofElement root') := by
  obtain ⟨⟨htag, hattributes⟩, hchildren⟩ := h
  cases root
  cases root'
  cases htag
  cases hattributes
  exact sameReading_of_eqvGen hchildren _ _ _ _

/-- The wording of an error does not tell where it is. -/
theorem message_malformed {cause cause' : Malformation} (h : cause = cause') {file file' : String}
    {span span' : Span} : (RegistryError.malformed file span cause).message
      = (RegistryError.malformed file' span' cause').message := by
  subst h
  rfl

/-- **Edits are not seen.**  Two documents that differ by edits of what a registry is not read
through are read to the same registry, or rejected with an error of the same kind and wording. -/
theorem registry_edited {root root' : Element} (h : Edited root root') :
    ((∃ r, Registry.ofElement root = .ok r ∧ Registry.ofElement root' = .ok r)
      ∨ ∃ f f', Registry.ofElement root = .error f ∧ Registry.ofElement root' = .error f'
        ∧ f.cause = f'.cause)
    ∧ ∀ file file' text text', Xml.Document.parse text = .ok root →
      Xml.Document.parse text' = .ok root' →
      (∃ r, Registry.parse file text = .ok r ∧ Registry.parse file' text' = .ok r)
      ∨ ∃ e e', Registry.parse file text = .error e ∧ Registry.parse file' text' = .error e'
        ∧ e.code = e'.code ∧ e.message = e'.message := by
  have hread : (∃ r, Registry.ofElement root = .ok r ∧ Registry.ofElement root' = .ok r)
      ∨ ∃ f f', Registry.ofElement root = .error f ∧ Registry.ofElement root' = .error f'
        ∧ f.cause = f'.cause := by
    have halike := h.alike
    -- an error may name another place, and only that
    generalize Registry.ofElement root = x, Registry.ofElement root' = y at halike
    cases halike with
    | ok r => exact .inl ⟨r, rfl, rfl⟩
    | error hcause => exact .inr ⟨_, _, rfl, rfl, hcause⟩
  refine ⟨hread, fun file file' text text' hparse hparse' => ?_⟩
  rw [registry_parse_eq hparse, registry_parse_eq hparse']
  rcases hread with ⟨r, hr, hr'⟩ | ⟨f, f', hf, hf', hcause⟩
  · rw [hr, hr']
    exact .inl ⟨r, rfl, rfl⟩
  · rw [hf, hf']
    exact .inr ⟨_, _, rfl, rfl, rfl, message_malformed hcause⟩

/-- A type. -/
def someType (span : Span) : Node :=
  .element "type" [⟨none, "name", "A"⟩] span []

/-- A section without commands. -/
def noCommands (span : Span) : Node :=
  .element "commands" [⟨none, "namespace", "GL"⟩] span []

/-- A section with a type, and then one without commands. -/
def oneSection : Element :=
  ⟨"registry", [], ⟨0, 78⟩,
    [.element "types" [] ⟨10, 31⟩ [someType ⟨17, 16⟩], noCommands ⟨41, 26⟩]⟩

/-- The sections in another order, and a comment in a section of its own. -/
def twoSections : Element :=
  ⟨"registry", [], ⟨0, 100⟩,
    [noCommands ⟨10, 26⟩, .element "types" [] ⟨36, 31⟩ [someType ⟨43, 16⟩],
      .element "types" [] ⟨67, 22⟩ [.comment]]⟩

theorem edited_oneSection_twoSections : Edited oneSection twoSections where
  head := ⟨rfl, rfl⟩
  children := by
    have hsplit := Edit.split (.inl rfl) [] [noCommands ⟨41, 26⟩] [] ⟨10, 31⟩ ⟨36, 31⟩ ⟨67, 22⟩
      [someType ⟨17, 16⟩] []
    have hcomment := Edit.inside (by decide : ("types", Level.types) ∈ Level.registry.inner)
      [.element "types" [] ⟨36, 31⟩ [someType ⟨17, 16⟩]] [noCommands ⟨41, 26⟩] []
      ⟨67, 22⟩ ⟨67, 22⟩ (Edit.insert [] [] (n := .comment) fun _ _ => rfl)
    have horder : Edit .registry
        [.element "types" [] ⟨36, 31⟩ [someType ⟨17, 16⟩], .element "types" [] ⟨67, 22⟩ [.comment],
          noCommands ⟨41, 26⟩]
        [noCommands ⟨41, 26⟩, .element "types" [] ⟨36, 31⟩ [someType ⟨17, 16⟩],
          .element "types" [] ⟨67, 22⟩ [.comment]] := by
      refine .reorder (List.perm_append_comm : ([_, _] ++ [_]).Perm ([_] ++ [_, _])) fun tag => ?_
      by_cases htypes : "types" = tag
      · subst htypes
        rfl
      · simp [List.filter_cons, Node.hasTag, noCommands, htypes]
    exact (Relation.EqvGen.rel _ _ hsplit).trans _ _ _ <|
      (Relation.EqvGen.rel _ _ hcomment).trans _ _ _ <|
      (Relation.EqvGen.rel _ _ horder).trans _ _ _ (.rel _ _ (.places rfl))

/-- The text of `oneSection`. -/
def oneSectionText : String :=
  "<registry><types><type name='A'/></types><commands namespace='GL'/></registry>"

/-- The text of `twoSections`. -/
def twoSectionsText : String :=
  "<registry><commands namespace='GL'/><types><type name='A'/></types>"
    ++ "<types><!----></types></registry>"

/-- Both documents are read, and to the same registry. -/
theorem registry_edited_twoSections :
    Edited oneSection twoSections
      ∧ ∃ r, Registry.parse "one.xml" oneSectionText = .ok r
        ∧ Registry.parse "two.xml" twoSectionsText = .ok r := by
  have hone : Xml.Document.parse oneSectionText = .ok oneSection := by rfl
  have htwo : Xml.Document.parse twoSectionsText = .ok twoSections := by rfl
  have hread := (registry_edited edited_oneSection_twoSections).2 "one.xml" "two.xml" _ _ hone htwo
  refine ⟨edited_oneSection_twoSections, hread.resolve_right ?_⟩
  rintro ⟨e, -, he, -⟩
  rw [registry_parse_eq hone] at he
  cases he

end GLBindings
