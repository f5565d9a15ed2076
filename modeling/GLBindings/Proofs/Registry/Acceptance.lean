import GLBindings.Proofs.Registry.Declaration
import GLBindings.Proofs.Traversal
import GLBindings.Proofs.Version
import Mathlib.Tactic.MkIffOfInductiveProp

namespace GLBindings

open GLBindings.Text
open GLBindings.Xml (Element)

/-!
# Acceptance — which documents are registries

A document is read part by part, and reading stops at the first fault.  This file says what a
document has to be like without any order of reading, lists the faults of any document, and proves
that the documents without faults are those that are read.

* `IsRegistry`, with one predicate for each kind of element — what a document has to be like.
* `registryFaults`, with one list for each kind of element — what is wrong with a document.
* `Reports` — a reader fails with the first fault of a list, or succeeds as there is none;
  `Reports.bind`, `Reports.mapM`, `Reports.check` — how readers are put together.
* `registryFaults_eq_nil`, `reports_registry` — the two sides of the list of faults.
* `registry_parse_eq_ok`, `sections_of_registry_ofElement` — where a registry that is read comes from.
* `registry_accepted` — which documents are read, and what is reported for the others.
-/

namespace Xml.Element

/-! ### What a document has to be like -/

/-- There is an attribute that is not blank. -/
def Says (e : Element) (name : String) : Prop :=
  ∃ value ∈ e.attribute? name, NonBlank value

/-- The last `<name>` is not blank. -/
def IsNamed (e : Element) : Prop :=
  ∃ name ∈ (e.elements "name").getLast?, NonBlank name.content

/-- A type is named by an attribute, or by its first `<name>`. -/
def IsType (e : Element) : Prop :=
  e.Says "name" ∨ ∃ name ∈ (e.elements "name").head?, NonBlank name.content

/-- A constant has a name and a value. -/
@[mk_iff]
structure IsConstant (e : Element) : Prop where
  name : e.Says "name"
  value : e.Says "value"

/-- Constants are declared in a namespace. -/
@[mk_iff]
structure IsCollection (e : Element) : Prop where
  namespaceName : e.Says "namespace"
  constants : ∀ c ∈ e.elements "enum", c.IsConstant

/-- A prototype has a name, and its full type is not empty. -/
@[mk_iff]
structure IsProto (e : Element) : Prop where
  named : e.IsNamed
  typed : Declaration.joinedType e ≠ ""

/-- A parameter has a name, and a `<ptype>` or some word but `const` in front of the name. -/
@[mk_iff]
structure IsParameter (e : Element) : Prop where
  named : e.IsNamed
  typed : e.elements "ptype" ≠ [] ∨ ∃ w ∈ Declaration.leadingWords e, w ≠ "const".toList

/-- A command has a prototype, the first one, and parameters. -/
@[mk_iff]
structure IsCommand (e : Element) : Prop where
  proto : ∃ p ∈ (e.elements "proto").head?, p.IsProto
  params : ∀ p ∈ e.elements "param", p.IsParameter

/-- Commands are declared in a namespace. -/
@[mk_iff]
structure IsCommandSection (e : Element) : Prop where
  namespaceName : e.Says "namespace"
  commands : ∀ c ∈ e.elements "command", c.IsCommand

/-- The children with certain tags are named by attributes. -/
def NamesEach (e : Element) (tags : List String) : Prop :=
  ∀ tag ∈ tags, ∀ n ∈ e.elements tag, n.Says "name"

/-- A feature has a number that is a version, an api and a name, and blocks of names. -/
@[mk_iff]
structure IsFeature (e : Element) : Prop where
  number : e.Says "number" ∧ ∃ number ∈ e.attribute? "number", ∃ v, Version.parse? number = .ok v
  api : e.Says "api"
  name : e.Says "name"
  requires : ∀ b ∈ e.elements "require", b.NamesEach ["enum", "command", "type"]
  removes : ∀ b ∈ e.elements "remove", b.NamesEach ["enum", "command"]

/-- A registry has sections of types and of commands, and what is in it is well formed. -/
@[mk_iff]
structure IsRegistry (e : Element) : Prop where
  tag : e.tag = "registry"
  hasTypes : e.elements "types" ≠ []
  hasCommands : e.elements "commands" ≠ []
  types : ∀ part ∈ e.elements "types", ∀ t ∈ part.elements "type", t.IsType
  collections : ∀ c ∈ e.elements "enums", c.IsCollection
  commands : ∀ part ∈ e.elements "commands", part.IsCommandSection
  features : ∀ f ∈ e.elements "feature", f.IsFeature

instance (e : Element) (name : String) : Decidable (e.Says name) :=
  inferInstanceAs (Decidable (∃ value ∈ e.attribute? name, NonBlank value))

instance (e : Element) : Decidable e.IsNamed :=
  inferInstanceAs (Decidable (∃ name ∈ (e.elements "name").getLast?, NonBlank name.content))

instance (e : Element) : Decidable e.IsType :=
  inferInstanceAs (Decidable (e.Says "name"
    ∨ ∃ name ∈ (e.elements "name").head?, NonBlank name.content))

/-! ### What can be wrong -/

/-- The text of the last `<name>`. -/
def declaredName (e : Element) : String :=
  ((e.elements "name").getLast?.map (trim ·.content)).getD ""

/-- An attribute is missing or blank. -/
def attributeFaults (e : Element) (name : String) : List Fault :=
  if e.Says name then [] else [.of e (.missingAttribute e.tag name)]

def typeFaults (e : Element) : List Fault :=
  if e.IsType then [] else [.of e .unnamedType]

def constantFaults (e : Element) : List Fault :=
  e.attributeFaults "name" ++ e.attributeFaults "value"

def collectionFaults (e : Element) : List Fault :=
  e.attributeFaults "namespace" ++ (e.elements "enum").flatMap constantFaults

/-- There is no `<name>`, or the last one is blank. -/
def nameFaults (e : Element) (what : String) : List Fault :=
  if e.IsNamed then [] else [.of e (.unnamedDeclaration what)]

def protoFaults (e : Element) : List Fault :=
  e.nameFaults "command"
    ++ if Declaration.joinedType e ≠ "" then [] else [.of e (.noReturnType e.declaredName)]

def parameterFaults (e : Element) : List Fault :=
  e.nameFaults "parameter"
    ++ if e.elements "ptype" ≠ [] ∨ ∃ w ∈ Declaration.leadingWords e, w ≠ "const".toList then []
      else [.of e (.noType e.declaredName)]

def commandFaults (e : Element) : List Fault :=
  ((e.elements "proto").head?.elim [.of e .noProto] protoFaults)
    ++ (e.elements "param").flatMap parameterFaults

def commandSectionFaults (e : Element) : List Fault :=
  e.attributeFaults "namespace" ++ (e.elements "command").flatMap commandFaults

/-- Children with certain tags, of which some have no name. -/
def namesFaults (tags : List String) (e : Element) : List Fault :=
  tags.flatMap fun tag => (e.elements tag).flatMap (attributeFaults · "name")

/-- The number is missing, or it is not a version. -/
def numberFaults (e : Element) : List Fault :=
  match e.attribute? "number" with
  | none => [.of e (.missingAttribute e.tag "number")]
  | some number =>
    if NonBlank number then
      match Version.parse? number with
      | .ok _ => []
      | .error cause => [.of e (.invalidNumber (trim number) cause)]
    else [.of e (.missingAttribute e.tag "number")]

def featureFaults (e : Element) : List Fault :=
  e.numberFaults ++ e.attributeFaults "api" ++ e.attributeFaults "name"
    ++ (e.elements "require").flatMap (namesFaults ["enum", "command", "type"])
    ++ (e.elements "remove").flatMap (namesFaults ["enum", "command"])

/-- All that is wrong with a document: first with its root, then with types, constants, commands and
features, each in the order of the document. -/
def registryFaults (e : Element) : List Fault :=
  (if e.tag = "registry" then [] else [.of e (.wrongRoot e.tag)])
    ++ (if e.elements "types" ≠ [] then [] else [.of e .noTypes])
    ++ (if e.elements "commands" ≠ [] then [] else [.of e .noCommands])
    ++ (e.elements "types").flatMap (fun part => (part.elements "type").flatMap typeFaults)
    ++ (e.elements "enums").flatMap collectionFaults
    ++ (e.elements "commands").flatMap commandSectionFaults
    ++ (e.elements "feature").flatMap featureFaults

/-! ### Documents without faults -/

variable {e : Element}

/-- A check has no fault to list exactly when it holds. -/
theorem unless_eq_nil {p : Prop} [Decidable p] {f : Fault} :
    (if p then [] else [f]) = [] ↔ p := by
  split <;> simp [*]

theorem attributeFaults_eq_nil {name : String} : e.attributeFaults name = [] ↔ e.Says name :=
  unless_eq_nil

/-- A type has no fault exactly if it says its name, in either of two places. -/
theorem typeFaults_eq_nil : e.typeFaults = [] ↔ e.IsType :=
  unless_eq_nil

/-- A constant has no fault exactly if it says its name and its value. -/
theorem constantFaults_eq_nil : e.constantFaults = [] ↔ e.IsConstant := by
  rw [constantFaults, List.append_eq_nil_iff, attributeFaults_eq_nil, attributeFaults_eq_nil,
    isConstant_iff]

/-- A collection has no fault exactly if it says its namespace and none of its constants has one. -/
theorem collectionFaults_eq_nil : e.collectionFaults = [] ↔ e.IsCollection := by
  rw [collectionFaults, List.append_eq_nil_iff, attributeFaults_eq_nil, List.flatMap_eq_nil_iff,
    isCollection_iff]
  simp only [constantFaults_eq_nil]

/-- A declaration has no fault exactly if it is named. -/
theorem nameFaults_eq_nil {what : String} : e.nameFaults what = [] ↔ e.IsNamed :=
  unless_eq_nil

theorem protoFaults_eq_nil : e.protoFaults = [] ↔ e.IsProto := by
  rw [protoFaults, List.append_eq_nil_iff, nameFaults_eq_nil, unless_eq_nil, isProto_iff]

theorem parameterFaults_eq_nil : e.parameterFaults = [] ↔ e.IsParameter := by
  rw [parameterFaults, List.append_eq_nil_iff, nameFaults_eq_nil, unless_eq_nil, isParameter_iff]

/-- A command has no fault exactly if it has a prototype, and no part of it has a fault. -/
theorem commandFaults_eq_nil : e.commandFaults = [] ↔ e.IsCommand := by
  rw [commandFaults, List.append_eq_nil_iff, List.flatMap_eq_nil_iff, isCommand_iff]
  simp only [parameterFaults_eq_nil]
  -- only the first `<proto>` is looked at
  cases (e.elements "proto").head? with
  | none => simp
  | some proto => simp [protoFaults_eq_nil]

/-- A list of commands has no fault exactly if it says its namespace and none of its commands has
one. -/
theorem commandSectionFaults_eq_nil : e.commandSectionFaults = [] ↔ e.IsCommandSection := by
  rw [commandSectionFaults, List.append_eq_nil_iff, attributeFaults_eq_nil, List.flatMap_eq_nil_iff,
    isCommandSection_iff]
  simp only [commandFaults_eq_nil]

/-- A block has no fault exactly if each of its references gives a name. -/
theorem namesFaults_eq_nil {tags : List String} : e.namesFaults tags = [] ↔ e.NamesEach tags := by
  simp only [namesFaults, List.flatMap_eq_nil_iff, attributeFaults_eq_nil, NamesEach]

/-- A feature has no fault in its number exactly if the number is there and is a version. -/
theorem numberFaults_eq_nil :
    e.numberFaults = [] ↔ e.Says "number"
      ∧ ∃ number ∈ e.attribute? "number", ∃ v, Version.parse? number = .ok v := by
  rw [numberFaults, Says]
  cases e.attribute? "number" with
  | none => simp
  | some number =>
    -- a blank number counts as missing, and is not read as a version
    by_cases hblank : NonBlank number
    · cases hparse : Version.parse? number <;> simp [hblank, hparse]
    · simp [hblank]

/-- A feature has no fault exactly if its number, API and name are there and so is every name in its
blocks. -/
theorem featureFaults_eq_nil : e.featureFaults = [] ↔ e.IsFeature := by
  simp only [featureFaults, List.append_eq_nil_iff, numberFaults_eq_nil, attributeFaults_eq_nil,
    List.flatMap_eq_nil_iff, namesFaults_eq_nil, isFeature_iff, and_assoc]

/-- A document has no fault exactly if it is one of a registry. -/
theorem registryFaults_eq_nil : e.registryFaults = [] ↔ e.IsRegistry := by
  simp only [registryFaults, List.append_eq_nil_iff, List.flatMap_eq_nil_iff, typeFaults_eq_nil,
    collectionFaults_eq_nil, commandSectionFaults_eq_nil, featureFaults_eq_nil, unless_eq_nil,
    isRegistry_iff, and_assoc]

end Xml.Element

/-! ### Readers and faults -/

/-- A reader fails with the first of some faults, and succeeds if there are none. -/
def Reports {α : Type} (x : Except Fault α) (faults : List Fault) : Prop :=
  ∀ f, x = .error f ↔ faults.head? = some f

namespace Reports

variable {α β : Type} {x : Except Fault α} {fs gs : List Fault}

/-- A result reports nothing. -/
theorem of_ok (a : α) : Reports (.ok a : Except Fault α) [] := by
  intro f
  simp

/-- An error reports itself, whatever faults come behind it. -/
theorem of_error (f : Fault) : Reports (.error f : Except Fault α) (f :: gs) := by
  intro g
  simp

/-- What reports its faults succeeds exactly if there are none. -/
theorem exists_ok_iff (h : Reports x fs) : (∃ a, x = .ok a) ↔ fs = [] := by
  cases fs with
  | nil =>
    refine iff_of_true ?_ rfl
    -- an error would be the first of no faults
    by_contra hnot
    obtain ⟨f, hf⟩ := not_ok_iff.mp hnot
    cases (h f).mp hf
  | cons f fs =>
    have herror : x = .error f := (h f).mpr rfl
    simp [herror]

/-- Of two readers, the second one reports if the first one has nothing to report. -/
protected theorem bind {k : α → Except Fault β} (hx : Reports x fs)
    (hk : ∀ a, x = .ok a → Reports (k a) gs) : Reports (x >>= k) (fs ++ gs) := by
  cases hcase : x with
  | ok a =>
    have hnil : fs = [] := hx.exists_ok_iff.mp ⟨a, hcase⟩
    rw [hnil, List.nil_append]
    exact hk a hcase
  | error f =>
    have hhead : fs.head? = some f := (hx f).mp hcase
    intro g
    rw [List.head?_append, hhead, Option.some_or]
    simp [bind, Except.bind]

/-- What comes behind all checks adds no faults. -/
theorem bind_ok (hx : Reports x fs) {k : α → β} : Reports (x >>= fun a => .ok (k a)) fs := by
  rw [← List.append_nil fs]
  exact hx.bind fun a _ => of_ok _

/-- Readers of a list report what is wrong with its elements, in their order. -/
protected theorem mapM {f : β → Except Fault α} {faults : β → List Fault}
    (h : ∀ b, Reports (f b) (faults b)) (bs : List β) :
    Reports (bs.mapM f) (bs.flatMap faults) := by
  induction bs with
  | nil => exact of_ok []
  | cons b bs ih =>
    rw [List.mapM_cons, List.flatMap_cons]
    exact (h b).bind fun a _ => ih.bind_ok

/-- A check in front of a reader. -/
theorem check {p q : Prop} [Decidable p] [Decidable q] (hpq : q ↔ ¬ p) {f : Fault}
    (h : q → Reports x gs) :
    Reports (if p then .error f else x) ((if q then [] else [f]) ++ gs) := by
  by_cases hq : q
  · rw [if_neg (hpq.mp hq), if_pos hq]
    exact h hq
  · -- otherwise it would hold what is checked
    have hp : p := by
      by_contra hnot
      exact hq (hpq.mpr hnot)
    rw [if_pos hp, if_neg hq]
    exact of_error f

end Reports

/-! ### The readers of the parts -/

section Parts

/-- A check that fails when there is no value holds when there is one. -/
theorem holds_of_eq_some {α : Type} {o : Option α} {p : Prop} (h : o = none ↔ ¬ p) {a : α}
    (ha : o = some a) : p := by
  by_contra hnot
  rw [h.mpr hnot] at ha
  cases ha

/-- A text that is not blank is kept without the white space around it, and any other is dropped. -/
theorem nonBlank?_eq (s : String) : nonBlank? s = if NonBlank s then some (trim s) else none := by
  rw [nonBlank?, Option.filter_some]
  simp only [decide_eq_true_eq, trim_ne_empty]

/-- The value of an attribute is read when it is not blank. -/
theorem attributeText?_of_attribute? {e : Element} {name value : String}
    (h : e.attribute? name = some value) :
    attributeText? e name = if NonBlank value then some (trim value) else none := by
  rw [attributeText?, h, Option.bind_some, nonBlank?_eq]

/-- An attribute is read as absent exactly if it is missing or blank. -/
theorem attributeText?_eq_none {e : Element} {name : String} :
    attributeText? e name = none ↔ ¬ e.Says name := by
  cases hvalue : e.attribute? name with
  | none => simp [attributeText?, Element.Says, hvalue]
  | some value =>
    rw [attributeText?_of_attribute? hvalue, ite_eq_right_iff]
    simp [Element.Says, hvalue]

/-- A child is read as absent exactly if the first of its tag is missing or blank. -/
theorem childText?_eq_none {e : Element} {tag : String} :
    childText? e tag = none ↔ ¬ ∃ child ∈ (e.elements tag).head?, NonBlank child.content := by
  rw [childText?]
  cases (e.elements tag).head? with
  | none => simp
  | some child =>
    rw [Option.bind_some, nonBlank?_eq, ite_eq_right_iff]
    simp

/-- A required attribute reports that it is missing or blank. -/
theorem reports_requiredText (e : Element) (name : String) :
    Reports (requiredText e name) (e.attributeFaults name) := by
  rw [requiredText, Element.attributeFaults]
  cases hvalue : attributeText? e name with
  | none =>
    rw [if_neg (attributeText?_eq_none.mp hvalue)]
    exact .of_error _
  | some value =>
    rw [if_pos (holds_of_eq_some attributeText?_eq_none hvalue)]
    exact .of_ok _

/-- The name of a type is an attribute, or else the text of a child. -/
theorem reports_typeDef (e : Element) : Reports (TypeDef.ofElement e) e.typeFaults := by
  have hname : (attributeText? e "name").or (childText? e "name") = none ↔ ¬ e.IsType := by
    rw [Option.or_eq_none_iff, attributeText?_eq_none, childText?_eq_none, Element.IsType, not_or]
  rw [TypeDef.ofElement, Element.typeFaults]
  cases hvalue : (attributeText? e "name").or (childText? e "name") with
  | none =>
    rw [if_neg (hname.mp hvalue)]
    exact .of_error _
  | some name =>
    rw [if_pos (holds_of_eq_some hname hvalue)]
    exact .of_ok _

theorem reports_constant (e : Element) : Reports (Constant.ofElement e) e.constantFaults :=
  (reports_requiredText e "name").bind fun _ _ => (reports_requiredText e "value").bind_ok

theorem reports_collection (e : Element) : Reports (Collection.ofElement e) e.collectionFaults :=
  (reports_requiredText e "namespace").bind fun _ _ =>
    (Reports.mapM reports_constant (e.elements "enum")).bind_ok

/-- The name that is read of a declaration, unless that is empty. -/
theorem declaredName?_eq (e : Element) :
    (Declaration.ofElement e).name.filter (· ≠ "")
      = if e.IsNamed then some e.declaredName else none := by
  rw [Declaration.name_ofElement, Element.declaredName]
  cases hlast : (e.elements "name").getLast? with
  | none =>
    have hnot : ¬ e.IsNamed := by simp [Element.IsNamed, hlast]
    rw [if_neg hnot]
    rfl
  | some name =>
    -- of several names the last one decides
    have hnamed : e.IsNamed ↔ NonBlank name.content := by simp [Element.IsNamed, hlast]
    rw [Option.map_some, Option.filter_some]
    simp only [hnamed, decide_eq_true_eq, trim_ne_empty, Option.getD_some]

/-- A declaration is read exactly if it is named, and then by that name. -/
theorem declarationOf_eq (e : Element) (what : String) :
    declarationOf e what = if e.IsNamed then .ok (Declaration.ofElement e, e.declaredName)
      else .error (.of e (.unnamedDeclaration what)) := by
  simp only [declarationOf, declaredName?_eq]
  by_cases hnamed : e.IsNamed <;> simp only [hnamed, if_true, if_false]

/-- A declaration reports that it has no name. -/
theorem reports_declarationOf (e : Element) (what : String) :
    Reports (declarationOf e what) (e.nameFaults what) := by
  rw [declarationOf_eq, Element.nameFaults]
  by_cases hnamed : e.IsNamed
  · rw [if_pos hnamed, if_pos hnamed]
    exact .of_ok _
  · rw [if_neg hnamed, if_neg hnamed]
    exact .of_error _

/-- What a declaration is read as, when it is read. -/
theorem eq_of_declarationOf {e : Element} {what : String} {a : Declaration × String}
    (h : declarationOf e what = .ok a) : a = (Declaration.ofElement e, e.declaredName) := by
  rw [declarationOf_eq] at h
  split at h
  · exact (Except.ok.inj h).symm
  · cases h

/-- A parameter reports that it has no name, or else that it has no type. -/
theorem reports_parameter (e : Element) : Reports (Parameter.ofElement e) e.parameterFaults := by
  refine (reports_declarationOf e "parameter").bind fun a ha => ?_
  obtain rfl := eq_of_declarationOf ha
  -- the base type is absent exactly when neither a tag nor a word gives it
  have hbase : (Declaration.ofElement e).base? = none
      ↔ ¬ (e.elements "ptype" ≠ [] ∨ ∃ w ∈ Declaration.leadingWords e, w ≠ "const".toList) := by
    rw [Declaration.base?_eq_none]
    simp
  cases hcase : (Declaration.ofElement e).base? with
  | none =>
    rw [if_neg (hbase.mp hcase)]
    simp only [hcase]
    exact .of_error _
  | some base =>
    rw [if_pos (holds_of_eq_some hbase hcase)]
    simp only [hcase]
    exact .of_ok _

/-- A command reports that it has no prototype, or else the faults of that and then those of its
parameters. -/
theorem reports_command (namespaceName : String) (e : Element) :
    Reports (Command.ofElement namespaceName e) e.commandFaults := by
  rw [Command.ofElement, Element.commandFaults]
  cases (e.elements "proto").head? with
  | none => exact .of_error _
  | some proto =>
    show Reports _ (proto.protoFaults ++ _)
    -- name and return type of the prototype are checked one after the other
    rw [Element.protoFaults, List.append_assoc]
    refine (reports_declarationOf proto "command").bind fun a ha => ?_
    -- with a name there is a declaration, and its full type is checked next
    obtain rfl := eq_of_declarationOf ha
    simp only [Declaration.fullType_ofElement]
    exact .check Iff.rfl fun _ => (Reports.mapM reports_parameter (e.elements "param")).bind_ok

/-- A list of commands reports its namespace, then its commands in order. -/
theorem reports_commandSection (e : Element) :
    Reports (commandsOf e) e.commandSectionFaults :=
  (reports_requiredText e "namespace").bind fun namespaceName _ =>
    .mapM (reports_command namespaceName) (e.elements "command")

/-- The references of one tag report their faults in order. -/
theorem reports_namesOf (e : Element) (tag : String) :
    Reports (namesOf e tag) ((e.elements tag).flatMap (·.attributeFaults "name")) :=
  (Reports.mapM (fun n => reports_requiredText n "name") (e.elements tag)).bind_ok

/-- A block of requirements reports the references to enums first, then commands, then types. -/
theorem reports_requireBlock (e : Element) :
    Reports (RequireBlock.ofElement e) (e.namesFaults ["enum", "command", "type"]) := by
  simp only [Element.namesFaults, List.flatMap_cons, List.flatMap_nil, List.append_nil]
  exact (reports_namesOf e "enum").bind fun _ _ => (reports_namesOf e "command").bind fun _ _ =>
    (reports_namesOf e "type").bind_ok

/-- A block of removals reports the references to enums first, then commands. -/
theorem reports_removeBlock (e : Element) :
    Reports (RemoveBlock.ofElement e) (e.namesFaults ["enum", "command"]) := by
  simp only [Element.namesFaults, List.flatMap_cons, List.flatMap_nil, List.append_nil]
  exact (reports_namesOf e "enum").bind fun _ _ => (reports_namesOf e "command").bind_ok

/-- A required attribute that is there is read without the white space around it. -/
theorem requiredText_of_attribute? {e : Element} {name value : String}
    (h : e.attribute? name = some value) (hblank : NonBlank value) :
    requiredText e name = .ok (trim value) := by
  rw [requiredText, attributeText?_of_attribute? h, if_pos hblank]

/-- The number of a feature reports that it is missing, or that it is no version. -/
theorem reports_featureNumber (e : Element) : Reports (featureNumber e) e.numberFaults := by
  -- without a text nothing is parsed
  have hmissing : attributeText? e "number" = none →
      featureNumber e = .error (.of e (.missingAttribute e.tag "number")) := by
    intro hnone
    rw [featureNumber, requiredText, hnone]
    rfl
  rw [Element.numberFaults]
  cases hvalue : e.attribute? "number" with
  | none =>
    rw [hmissing (by rw [attributeText?, hvalue, Option.bind_none])]
    exact .of_error _
  | some number =>
    by_cases hblank : NonBlank number
    · -- the text is trimmed before it is parsed, which makes no difference
      have hnumber := requiredText_of_attribute? hvalue hblank
      simp only [hblank, if_true]
      rw [featureNumber, hnumber]
      simp only [bind, Except.bind, Version.parse?_trim]
      cases Version.parse? number with
      | ok v => exact .of_ok v
      | error cause => exact .of_error _
    · rw [hmissing (by rw [attributeText?_of_attribute? hvalue, if_neg hblank])]
      simp only [hblank, if_false]
      exact .of_error _

/-- A feature reports its attributes first, then the blocks of requirements and at last those of
removals. -/
theorem reports_feature (e : Element) : Reports (Feature.ofElement e) e.featureFaults := by
  simp only [Element.featureFaults, List.append_assoc]
  exact (reports_featureNumber e).bind fun _ _ => (reports_requiredText e "api").bind fun _ _ =>
    (reports_requiredText e "name").bind fun _ _ =>
    (Reports.mapM reports_requireBlock (e.elements "require")).bind fun _ _ =>
    (Reports.mapM reports_removeBlock (e.elements "remove")).bind_ok

/-- A document is read until the first of its faults. -/
theorem reports_registry (root : Element) :
    Reports (Registry.ofElement root) root.registryFaults := by
  simp only [Element.registryFaults, List.append_assoc]
  -- three checks of the root come before anything inside is read
  refine .check (not_not).symm fun _ => .check (by simp) fun _ => .check (by simp) fun _ => ?_
  -- types are read over all sections at once
  rw [← List.flatMap_assoc]
  exact (Reports.mapM reports_typeDef _).bind fun _ _ =>
    (Reports.mapM reports_collection (root.elements "enums")).bind fun _ _ =>
    (Reports.mapM reports_commandSection (root.elements "commands")).bind fun _ _ =>
    (Reports.mapM reports_feature (root.elements "feature")).bind_ok

end Parts

/-! ### Which documents are registries -/

/-- A document is read from its root, and a fault is reported with its place. -/
theorem registry_parse_eq {root : Element} {text : String}
    (h : Xml.Document.parse text = .ok root) (file : String) :
    Registry.parse file text
      = (Registry.ofElement root).mapError fun f => .malformed file f.span f.cause := by
  rw [Registry.parse, h]
  simp only
  cases Registry.ofElement root <;> rfl

/-- A registry that is read comes from the root of a document. -/
theorem registry_parse_eq_ok {file text : String} {r : Registry} :
    Registry.parse file text = .ok r
      ↔ ∃ root, Xml.Document.parse text = .ok root ∧ Registry.ofElement root = .ok r := by
  -- what is no document has no root
  cases hparse : Xml.Document.parse text with
  | error e => simp [Registry.parse, hparse]
  | ok root =>
    rw [registry_parse_eq hparse]
    cases hread : Registry.ofElement root <;> simp [hread, Except.mapError]

/-- A registry that is read consists of what its sections are read as. -/
theorem sections_of_registry_ofElement {root : Element} {r : Registry}
    (h : Registry.ofElement root = .ok r) :
    ((root.elements "types").flatMap (·.elements "type")).mapM TypeDef.ofElement = .ok r.types
    ∧ (root.elements "enums").mapM Collection.ofElement = .ok r.collections
    ∧ (∃ commands, (root.elements "commands").mapM commandsOf = .ok commands
      ∧ r.commands = commands.flatten)
    ∧ (root.elements "feature").mapM Feature.ofElement = .ok r.features := by
  rw [Registry.ofElement] at h
  -- the root has the right tag, and both sections
  iterate 3
    split at h
    · cases h
  simp only [bind_eq_ok] at h
  obtain ⟨types, htypes, collections, hcollections, commands, hcommands, features, hfeatures, h⟩ := h
  obtain rfl := Except.ok.inj h
  exact ⟨htypes, hcollections, ⟨commands, hcommands, rfl⟩, hfeatures⟩

/-- **Acceptance.**  A document is read exactly when it is like a registry: nothing depends on the
order of its parts, and nothing else is asked of it.  Any other document is rejected for the first of
its faults, which is reported with its place. -/
theorem registry_accepted (root : Element) :
    ((∃ r, Registry.ofElement root = .ok r) ↔ root.IsRegistry)
    ∧ (∀ f, Registry.ofElement root = .error f ↔ root.registryFaults.head? = some f)
    ∧ ∀ file text, Xml.Document.parse text = .ok root →
      ((∃ r, Registry.parse file text = .ok r) ↔ root.IsRegistry)
      ∧ ∀ error, Registry.parse file text = .error error
        ↔ ∃ f ∈ root.registryFaults.head?, error = .malformed file f.span f.cause := by
  -- a document is accepted when there is no first fault
  have haccepted : (∃ r, Registry.ofElement root = .ok r) ↔ root.IsRegistry :=
    (reports_registry root).exists_ok_iff.trans Element.registryFaults_eq_nil
  refine ⟨haccepted, reports_registry root, fun file text hparse => ?_⟩
  rw [registry_parse_eq hparse, ← haccepted]
  simp only [Option.mem_def, ← reports_registry root _]
  cases Registry.ofElement root with
  | ok r => simp [Except.mapError]
  | error f => simp [Except.mapError, eq_comm]

/-- A feature without a number, in front of a type without a name. -/
def twoFaults : String :=
  "<registry><feature/><commands namespace='GL'/><types><type>int</type></types></registry>"

/-- The same document with what was missing. -/
def noFaults : String :=
  "<registry><feature number='1.0' api='gl' name='GL_VERSION_1_0'/><commands namespace='GL'/>"
    ++ "<types><type>int <name>GLint</name></type></types></registry>"

/-- Types are read before features, so the type is reported.  With nothing missing the document is
read. -/
theorem registry_accepted_twoFaults :
    Registry.parse "gl.xml" twoFaults = .error (.malformed "gl.xml" ⟨53, 16⟩ .unnamedType)
    ∧ ∃ r, Registry.parse "gl.xml" noFaults = .ok r := by
  have hfaults : (Xml.Document.parse twoFaults).toOption.map (·.registryFaults.head?)
      = some (some ⟨⟨53, 16⟩, .unnamedType⟩) := by decide +kernel
  have hnone : (Xml.Document.parse noFaults).toOption.map (·.registryFaults) = some [] := by
    decide +kernel
  constructor
  · obtain ⟨root, hparse, hfirst⟩ := toOption_map_eq_some.mp hfaults
    obtain ⟨-, -, hdocument⟩ := registry_accepted root
    obtain ⟨-, herror⟩ := hdocument "gl.xml" twoFaults hparse
    exact (herror _).mpr ⟨_, hfirst, rfl⟩
  · obtain ⟨root, hparse, hfaultless⟩ := toOption_map_eq_some.mp hnone
    obtain ⟨-, -, hdocument⟩ := registry_accepted root
    obtain ⟨hread, -⟩ := hdocument "gl.xml" noFaults hparse
    exact hread.mpr (Element.registryFaults_eq_nil.mp hfaultless)

end GLBindings
