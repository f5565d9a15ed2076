import GLBindings.Xml.Tree

namespace GLBindings.Xml

/-!
# Xml — child elements and places

* `Node.hasTag`, `elementsOf` — the child elements with a tag, as a function of a list of nodes.
* `Node.unplaced`, `Element.unplaced` — a tree without the places where its elements stand.
* `contentWith_unplaced`, `elements_unplaced` — what is read off a tree without its places.
-/

/-! ### Child elements -/

/-- Is the node an element with this tag? -/
def Node.hasTag (tag : String) : Node → Bool
  | .element t _ _ _ => t == tag
  | _ => false

/-- The elements with this tag. -/
def elementsOf (tag : String) (ns : List Node) : List Element :=
  (ns.filter (Node.hasTag tag)).filterMap Node.element?

/-- The elements of a tag among joined lists of nodes. -/
theorem elementsOf_append (tag : String) (ns ms : List Node) :
    elementsOf tag (ns ++ ms) = elementsOf tag ns ++ elementsOf tag ms := by
  rw [elementsOf, List.filter_append, List.filterMap_append]
  rfl

/-- A node without the tag says nothing about the elements with it. -/
theorem elementsOf_cons_of_not {tag : String} {n : Node} (h : n.hasTag tag = false)
    (ns : List Node) : elementsOf tag (n :: ns) = elementsOf tag ns := by
  rw [elementsOf, List.filter_cons_of_neg (by simp [h])]
  rfl

/-- An element of the tag comes in front of those behind it. -/
theorem elementsOf_cons_element (tag : String) (attributes : List Attribute) (span : Text.Span)
    (children ns : List Node) :
    elementsOf tag (.element tag attributes span children :: ns)
      = ⟨tag, attributes, span, children⟩ :: elementsOf tag ns := by
  rw [elementsOf, List.filter_cons_of_pos (by simp [Node.hasTag])]
  rfl

/-- The elements below an element are those among its children. -/
theorem Element.elements_eq (e : Element) (tag : String) :
    e.elements tag = elementsOf tag e.children := by
  rw [Element.elements, Element.childElements]
  -- on the children, of which one counts if it is an element with the tag
  induction e.children with
  | nil => rfl
  | cons n ns ih =>
    cases n with
    | element t attributes span children =>
      by_cases ht : t = tag
      · rw [ht, elementsOf_cons_element, ← ih]
        simp [Node.element?]
      · rw [elementsOf_cons_of_not (by simpa [Node.hasTag] using ht), ← ih]
        simp [Node.element?, ht]
    | text value => exact ih
    | comment => exact ih
    | instruction => exact ih

/-! ### Trees without places -/

mutual

/-- The node without the places of its elements. -/
def Node.unplaced : Node → Node
  | .element tag attributes _ children => .element tag attributes ⟨0, 0⟩ (unplacedAll children)
  | .text value => .text value
  | .comment => .comment
  | .instruction => .instruction

/-- Nodes without the places of their elements. -/
def unplacedAll : List Node → List Node
  | [] => []
  | n :: ns => n.unplaced :: unplacedAll ns

end

/-- The element without its place and the ones of the elements inside. -/
def Element.unplaced (e : Element) : Element :=
  ⟨e.tag, e.attributes, ⟨0, 0⟩, unplacedAll e.children⟩

mutual

/-- Places carry no text: the content is the same without them.  Nodes and lists of nodes are
proved together, as the tree nests them. -/
theorem contentWith_unplaced (mark : String → String) :
    ∀ n : Node, n.unplaced.contentWith mark = n.contentWith mark
  | .element tag attributes span children => by
    rw [Node.unplaced, Node.contentWith, Node.contentWith, contentOfAll_unplacedAll mark children]
  | .text _ => rfl
  | .comment => rfl
  | .instruction => rfl

theorem contentOfAll_unplacedAll (mark : String → String) :
    ∀ ns : List Node, contentOfAll mark (unplacedAll ns) = contentOfAll mark ns
  | [] => rfl
  | n :: ns => by
    rw [unplacedAll, contentOfAll, contentOfAll, contentWith_unplaced mark n,
      contentOfAll_unplacedAll mark ns]

end

/-- The content of an element does not depend on places. -/
theorem Element.content_unplaced (e : Element) : e.unplaced.content = e.content :=
  contentOfAll_unplacedAll _ e.children

/-- Only the elements lose their places. -/
theorem elementsOf_unplacedAll (tag : String) (ns : List Node) :
    elementsOf tag (unplacedAll ns) = (elementsOf tag ns).map Element.unplaced := by
  induction ns with
  | nil => rfl
  | cons n ns ih =>
    rw [unplacedAll]
    -- a node keeps its tag when it loses its place
    cases hn : n.hasTag tag with
    | false =>
      have hunplaced : n.unplaced.hasTag tag = false := by
        cases n <;> exact hn
      rw [elementsOf_cons_of_not hunplaced, elementsOf_cons_of_not hn, ih]
    | true =>
      cases n with
      | element t attributes span children =>
        obtain rfl : t = tag := by simpa [Node.hasTag] using hn
        rw [Node.unplaced, elementsOf_cons_element, elementsOf_cons_element, ih]
        rfl
      -- only elements have a tag
      | _ => cases hn

/-- The elements of a tag are found in the same order without places. -/
theorem Element.elements_unplaced (e : Element) (tag : String) :
    e.unplaced.elements tag = (e.elements tag).map Element.unplaced := by
  rw [Element.elements_eq, Element.elements_eq]
  exact elementsOf_unplacedAll tag e.children

end GLBindings.Xml
