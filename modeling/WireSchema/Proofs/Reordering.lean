import Mathlib.Data.List.Find
import Mathlib.Data.List.Nodup
import WireSchema.Proofs.Noise

/-!
Reorderings: the sections of a definition, and the parts of each section, may stand in any order. What
is read, and which failure is told of when there are several, depends on the order of the elements of
one name alone; the order of attributes never counts.
-/
namespace WireSchema
open Text Xml

/-- The attributes of one element at any depth stand in another order. -/
inductive AttributesPermuted : Node → Node → Prop
  | here {name : ExpandedName} {as bs : List Attribute} {children : List Node}
    (distinct : (as.map (·.name)).Nodup) (perm : as.Perm bs) :
    AttributesPermuted (.element name as children) (.element name bs children)
  | inside {name : ExpandedName} {attributes : List Attribute} (before after : List Node)
    {a b : Node} (child : AttributesPermuted a b) :
    AttributesPermuted (.element name attributes (before ++ a :: after))
      (.element name attributes (before ++ b :: after))

/-- One reordering: of attributes, or of the children of an element in which no text is read, be it the
element itself or one of its parts. The elements of a name that is looked up keep their order; all
other nodes go anywhere. -/
inductive Reordering : Shape → Node → Node → Prop
  | attributes {shape : Shape} {a b : Node} (permuted : AttributesPermuted a b) :
    Reordering shape a b
  | children {shape : Shape} {name : ExpandedName} {attributes : List Attribute}
    {as bs : List Node} (unread : shape.readsText = false) (perm : as.Perm bs)
    (order : ∀ part ∈ shape.parts,
      as.filter (Node.isNamed part.name) = bs.filter (Node.isNamed part.name)) :
    Reordering shape (.element name attributes as) (.element name attributes bs)
  | inside {shape : Shape} {name : ExpandedName} {attributes : List Attribute}
    (before after : List Node) {a b : Node}
    (known : ∃ part ∈ shape.parts, part.name = a.localName)
    (each : ∀ part ∈ shape.parts, part.name = a.localName → Reordering part.shape a b) :
    Reordering shape (.element name attributes (before ++ a :: after))
      (.element name attributes (before ++ b :: after))

theorem AttributesPermuted.same_element {a b : Node} (permuted : AttributesPermuted a b) :
    (a.isElement = true ∧ b.isElement = true) ∧ a.localName = b.localName := by
  cases permuted <;> exact ⟨⟨rfl, rfl⟩, rfl⟩

theorem Reordering.same_element {shape : Shape} {a b : Node} (edit : Reordering shape a b) :
    (a.isElement = true ∧ b.isElement = true) ∧ a.localName = b.localName := by
  cases edit with
  | attributes permuted => exact permuted.same_element
  | children => exact ⟨⟨rfl, rfl⟩, rfl⟩
  | inside => exact ⟨⟨rfl, rfl⟩, rfl⟩

theorem Xml.Node.attribute?_of_perm {name : ExpandedName} {as bs : List Attribute}
    {children : List Node} (distinct : (as.map (·.name)).Nodup) (perm : as.Perm bs)
    (sought : String) :
    (element name as children).attribute? sought = (element name bs children).attribute? sought := by
  have once : {a ∈ as | (a.name == ⟨none, sought⟩) = true}.Subsingleton := by
    rintro first ⟨here, named⟩ second ⟨there, named'⟩
    apply List.inj_on_of_nodup_map distinct here there
    rw [beq_iff_eq.mp named, beq_iff_eq.mp named']
  unfold attribute? attributes
  rw [List.find?_eq_find?_of_perm perm once]

namespace Shape

theorem agree_of_attributes {a b : Node} (permuted : AttributesPermuted a b) (shape : Shape) :
    shape.agree a b := by
  induction permuted generalizing shape with
  | here distinct perm =>
    refine agree_of_parts (fun _ => rfl) ?_ ?_
    · intro sought
      rw [Node.attribute?_of_perm distinct perm]
    · intro part _
      exact part.shape.forall₂_agree_refl _
  | inside before after child ih =>
    obtain ⟨elements, names⟩ := child.same_element
    exact agree_inside elements names fun part _ _ => ih part.shape

theorem agree_of_reordering {shape : Shape} {a b : Node} (edit : Reordering shape a b) :
    shape.agree a b := by
  induction edit with
  | attributes permuted => exact agree_of_attributes permuted _
  | children unread _ order =>
    apply agree_of_children
    · intro reads
      rw [unread] at reads
      contradiction
    · intro part member
      rw [order part member]
  | inside before after known each ih =>
    obtain ⟨part, member, named⟩ := known
    obtain ⟨elements, names⟩ := (each part member named).same_element
    exact agree_inside elements names ih

end Shape

/-- Any sequence of reorderings leaves the reading as it was: the definition of a tree that is accepted,
the failure of one that is not, and the events before it. -/
theorem Definition.ofNode_eq_of_reordering {a b : Node}
    (edits : Relation.EqvGen (Reordering .protocol) a b) :
    Definition.ofNode a = Definition.ofNode b := by
  induction edits with
  | rel a b edit =>
    exact Definition.ofNode_congr edit.same_element.2 (Shape.agree_of_reordering edit)
  | refl a => rfl
  | symm a b _ ih => exact ih.symm
  | trans a b c _ _ first second => exact first.trans second

open Node in
/-- Sections, parts of a section, a text among fields and attributes are moved. Of the three defects the
byte order is told of in both trees. -/
theorem same_failure_in_other_order :
    let name := leaf "name" "s"
    let order := leaf "byte_order" "middle_endian"
    let text := Node.text "\n"
    let field := plain "field" [("name", "a"), ("type", "t"), ("bits", "8")] []
    let turned := plain "field" [("bits", "8"), ("type", "t"), ("name", "a")] []
    let bad := plain "field" [("name", "b")] []
    let titled := leaf "protocolname" "Lelei Protocol"
    let header := plain "header" [] [leaf "name" "h"]
    let one := plain "protocol" []
      [titled, plain "structure" [] [name, order, plain "fields" [] [text, field, bad]], header]
    let other := plain "protocol" []
      [header, plain "structure" [] [plain "fields" [] [turned, bad, text], order, name], titled]
    Relation.EqvGen (Reordering .protocol) one other ∧
      Definition.ofNode one = Definition.ofNode other ∧
      (Definition.ofNode other).result = .error (.value (.unknownByteOrder "middle_endian")) := by
  intro name order text field turned bad titled header one other
  let list (items : List Node) := plain "fields" [] items
  let parts (nodes : List Node) := plain "structure" [] nodes
  let whole (layout : Node) := plain "protocol" [] [titled, layout, header]
  have inside {a b : Node} (named : a.localName = "structure") (edit : Reordering .layout a b) :
      Reordering .protocol (whole a) (whole b) := by
    apply Reordering.inside [titled] [header]
    · simp [Shape.protocol, Shape.parts, named]
    · simpa [Shape.protocol, Shape.parts, named] using edit
  have first : Reordering .protocol one (whole (parts [name, order, list [text, turned, bad]])) := by
    apply Reordering.attributes
    apply AttributesPermuted.inside [titled] [header]
    apply AttributesPermuted.inside [name, order] []
    apply AttributesPermuted.inside [text] [bad]
    exact .here (by decide) (List.reverse_perm _).symm
  have second : Reordering .protocol (whole (parts [name, order, list [text, turned, bad]]))
      (whole (parts [name, order, list [turned, bad, text]])) := by
    apply inside rfl
    apply Reordering.inside [name, order] []
    · simp [Shape.layout, Shape.parts, list]
    · have moved : Reordering .fields (list [text, turned, bad]) (list [turned, bad, text]) := by
        refine .children rfl (List.perm_append_singleton text [turned, bad]).symm ?_
        simp only [Shape.fields, Shape.parts, List.forall_mem_cons]
        exact ⟨rfl, List.forall_mem_nil _⟩
      simpa [Shape.layout, Shape.parts, list] using moved
  have third : Reordering .protocol (whole (parts [name, order, list [turned, bad, text]]))
      (whole (parts [list [turned, bad, text], order, name])) := by
    apply inside rfl
    refine .children rfl (List.reverse_perm _).symm ?_
    simp only [Shape.layout, Shape.parts, List.forall_mem_cons]
    exact ⟨rfl, rfl, rfl, List.forall_mem_nil _⟩
  have last : Reordering .protocol (whole (parts [list [turned, bad, text], order, name])) other := by
    refine .children rfl (List.reverse_perm _).symm ?_
    simp only [Shape.protocol, Shape.parts, List.forall_mem_cons]
    exact ⟨rfl, rfl, rfl, rfl, rfl, List.forall_mem_nil _⟩
  have edits : Relation.EqvGen (Reordering .protocol) one other :=
    .trans _ _ _ (.rel _ _ first) (.trans _ _ _ (.rel _ _ second)
      (.trans _ _ _ (.rel _ _ third) (.rel _ _ last)))
  exact ⟨edits, Definition.ofNode_eq_of_reordering edits, by decide +kernel⟩

end WireSchema
