import GLBindings.Proofs.Xml.Tree
import GLBindings.Registry.Reader
import Mathlib.Data.List.Forall2

namespace GLBindings

open GLBindings.Text
open GLBindings.Xml (Element Node elementsOf unplacedAll)

/-!
# Places — readings that differ in where elements stand

The place of an element is read for one purpose: to report a fault of it.  So two documents that
differ in places are read alike: to the same result, or to faults with the same cause.

* `Alike` — the same result, or faults with the same cause.
* `Alike.bind`, `Alike.mapM` — how readings that are alike are put together.
* `SameHead` — two elements with the same tag and attributes; what is read off these.
* `alike_typeDef`, `alike_declarationOf`, `alike_parameter` — elements that differ in places are
  read alike.
-/

/-! ### Readings that are alike -/

/-- Two readings with the same result, or with faults of the same cause. -/
inductive Alike {α : Type} : Except Fault α → Except Fault α → Prop where
  | ok (a : α) : Alike (.ok a) (.ok a)
  | error {f g : Fault} (h : f.cause = g.cause) : Alike (.error f) (.error g)

namespace Alike

variable {α β : Type} {x y z : Except Fault α}

@[refl]
protected theorem refl (x : Except Fault α) : Alike x x := by
  cases x with
  | ok a => exact .ok a
  | error f => exact .error rfl

protected theorem symm (h : Alike x y) : Alike y x := by
  cases h with
  | ok a => exact .ok a
  | error h => exact .error h.symm

protected theorem trans (h : Alike x y) (h' : Alike y z) : Alike x z := by
  cases h with
  | ok a => exact h'
  | error h => cases h' with
    | error h' => exact .error (h.trans h')

protected theorem bind (h : Alike x y) {k l : α → Except Fault β} (hk : ∀ a, Alike (k a) (l a)) :
    Alike (x >>= k) (y >>= l) := by
  cases h with
  | ok a => exact hk a
  | error h => exact .error h

protected theorem map (h : Alike x y) (k : α → β) : Alike (x.map k) (y.map k) := by
  cases h with
  | ok a => exact .ok (k a)
  | error h => exact .error h

protected theorem mapM {f g : β → Except Fault α} {bs cs : List β}
    (h : List.Forall₂ (fun b c => Alike (f b) (g c)) bs cs) : Alike (bs.mapM f) (cs.mapM g) := by
  induction h with
  | nil => exact .refl _
  | cons hbc _ ih =>
    rw [List.mapM_cons, List.mapM_cons]
    exact hbc.bind fun a => ih.bind fun as => .refl _

end Alike

/-! ### Tags and attributes -/

/-- Two elements with the same tag and attributes. -/
structure SameHead (e e' : Element) : Prop where
  tag : e.tag = e'.tag
  attributes : e.attributes = e'.attributes

namespace SameHead

variable {e e' : Element}

/-- Attributes are read from the head of an element. -/
theorem attributeText?_eq (h : SameHead e e') (name : String) :
    attributeText? e name = attributeText? e' name := by
  rw [attributeText?, attributeText?, Element.attribute?, Element.attribute?, h.attributes]

/-- Required attributes are read from the head of an element, up to the place an error gives. -/
theorem requiredText (h : SameHead e e') (name : String) :
    Alike (requiredText e name) (GLBindings.requiredText e' name) := by
  rw [GLBindings.requiredText, GLBindings.requiredText, h.attributeText?_eq]
  -- the error names the tag, which is the same, and the place
  cases attributeText? e' name with
  | none => exact .error (congrArg (Malformation.missingAttribute · name) h.tag)
  | some value => exact .ok value

/-- A constant is read from its tag and attributes alone. -/
theorem constant (h : SameHead e e') : Alike (Constant.ofElement e) (Constant.ofElement e') := by
  -- every part of a constant is an attribute
  refine (h.requiredText "name").bind fun name => (h.requiredText "value").bind fun value => ?_
  rw [h.attributeText?_eq, h.attributeText?_eq, Element.attribute?, h.attributes]
  exact .refl _

end SameHead

/-! ### Elements that differ in places -/

section Unplaced

variable {e e' : Element}

/-- What does not depend on places is the same of elements that differ in nothing else. -/
theorem eq_of_unplaced {α : Type} (f : Element → α) (hf : ∀ e, f e.unplaced = f e)
    (h : e.unplaced = e'.unplaced) : f e = f e' := by
  rw [← hf e, h, hf]

/-- Elements that differ in places only have the same head. -/
theorem SameHead.of_unplaced (h : e.unplaced = e'.unplaced) : SameHead e e' where
  tag := eq_of_unplaced Element.tag (fun _ => rfl) h
  attributes := eq_of_unplaced Element.attributes (fun _ => rfl) h

/-- The text of a child does not depend on places. -/
theorem childText?_unplaced (e : Element) (tag : String) :
    childText? e.unplaced tag = childText? e tag := by
  rw [childText?, childText?, Element.elements_unplaced, List.head?_map, Option.bind_map]
  simp only [Function.comp_def, Element.content_unplaced]

/-- A type definition is read without regard to places. -/
theorem alike_typeDef (h : e.unplaced = e'.unplaced) :
    Alike (TypeDef.ofElement e) (TypeDef.ofElement e') := by
  have hhead : SameHead e e' := .of_unplaced h
  have hname : childText? e "name" = childText? e' "name" :=
    eq_of_unplaced (childText? · "name") (childText?_unplaced · "name") h
  -- the definition is the content, in which no place is seen
  have hcontent : e.toNode.contentWith definitionMark = e'.toNode.contentWith definitionMark :=
    eq_of_unplaced (·.toNode.contentWith definitionMark)
      (fun e => Xml.contentWith_unplaced definitionMark e.toNode) h
  simp only [TypeDef.ofElement, hhead.attributeText?_eq, hname, hcontent]
  split
  · exact .error rfl
  · exact .ok _

/-- A declaration consists of texts, tags and their order. -/
theorem addNode_unplaced (d : Declaration) (n : Node) : d.addNode n.unplaced = d.addNode n := by
  cases n with
  | element tag attributes span children =>
    rw [Node.unplaced, Declaration.addNode, Declaration.addNode, Xml.contentOfAll_unplacedAll]
  | _ => rfl

/-- A declaration is read without regard to places, since it is read from contents. -/
theorem declaration_unplaced (e : Element) :
    Declaration.ofElement e.unplaced = Declaration.ofElement e := by
  -- child by child the same is collected
  have hrun : ∀ (ns : List Node) d, (unplacedAll ns).foldl Declaration.addNode d
      = ns.foldl Declaration.addNode d := by
    intro ns
    induction ns with
    | nil => exact fun _ => rfl
    | cons n ns ih =>
      intro d
      rw [unplacedAll, List.foldl_cons, List.foldl_cons, addNode_unplaced, ih]
  exact hrun e.children Declaration.empty

/-- A named declaration is read without regard to places; where there is no name the errors differ
in place only. -/
theorem alike_declarationOf (h : e.unplaced = e'.unplaced) (what : String) :
    Alike (declarationOf e what) (declarationOf e' what) := by
  simp only [declarationOf, eq_of_unplaced Declaration.ofElement declaration_unplaced h]
  split
  · exact .ok _
  · exact .error rfl

/-- A parameter is read without regard to places. -/
theorem alike_parameter (h : e.unplaced = e'.unplaced) :
    Alike (Parameter.ofElement e) (Parameter.ofElement e') := by
  have hhead : SameHead e e' := .of_unplaced h
  refine (alike_declarationOf h "parameter").bind fun a => ?_
  obtain ⟨d, name⟩ := a
  simp only [hhead.attributeText?_eq]
  -- the declarations are the same, so both have a base type or neither
  cases d.base? with
  | none => exact .error rfl
  | some base => exact .refl _

end Unplaced

end GLBindings
