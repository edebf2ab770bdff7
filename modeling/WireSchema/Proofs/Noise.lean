import Mathlib.Logic.Relation
import WireSchema.Proofs.Shape
import WireSchema.Proofs.Written

/-!
Noise: edits of a tree at any depth that a reading does not notice. Comments, instructions, blanks
around texts and values, texts between elements, elements that are not looked up, and repeated
elements of which only the first is looked up make no difference to what is read or told of it.
-/
namespace WireSchema
open Text Xml

/-- A node that a reading with the shape passes over when it stands after the others. -/
inductive PassedOver (shape : Shape) (before : List Node) : Node → Prop
  | comment (content : String) : PassedOver shape before (.comment content)
  | instruction (target content : String) : PassedOver shape before (.instruction target content)
  | text (unread : shape.readsText = false) (content : String) :
    PassedOver shape before (.text content)
  | element {node : Node} (element : node.isElement = true)
    (unknown : ∀ part ∈ shape.parts, part.name ≠ node.localName) : PassedOver shape before node
  | repeated {node : Node} (element : node.isElement = true)
    (earlier : ∃ other ∈ before, other.isNamed node.localName = true)
    (first : ∀ part ∈ shape.parts, part.name = node.localName → part.choice = .first) :
    PassedOver shape before node

/-- One edit of an element, or inside one of its parts. An element that is not looked up may change in
any way but for its name. -/
inductive Noise : Shape → Node → Node → Prop
  | insert {shape : Shape} {name : ExpandedName} {attributes : List Attribute}
    (before after : List Node) {node : Node} (passed : PassedOver shape before node) :
    Noise shape (.element name attributes (before ++ after))
      (.element name attributes (before ++ node :: after))
  | split {shape : Shape} {name : ExpandedName} {attributes : List Attribute}
    (before after : List Node) (s t : String) :
    Noise shape (.element name attributes (before ++ .text (s ++ t) :: after))
      (.element name attributes (before ++ .text s :: .text t :: after))
  | padText {shape : Shape} {name : ExpandedName} {attributes : List Attribute}
    {children padded : List Node} (reads : shape.readsText = true) (front back : String)
    (blank : Blank front ∧ Blank back)
    (joined : (Node.element name attributes padded).ownText =
      front ++ (Node.element name attributes children).ownText ++ back)
    (elements : padded.filter Node.isElement = children.filter Node.isElement) :
    Noise shape (.element name attributes children) (.element name attributes padded)
  | padValue {shape : Shape} {name key : ExpandedName} {children : List Node}
    (before after : List Attribute) (front value back : String) (blank : Blank front ∧ Blank back) :
    Noise shape (.element name (before ++ ⟨key, value⟩ :: after) children)
      (.element name (before ++ ⟨key, front ++ value ++ back⟩ :: after) children)
  | inside {shape : Shape} {name : ExpandedName} {attributes : List Attribute}
    (before after : List Node) {a b : Node} (elements : a.isElement = true ∧ b.isElement = true)
    (names : a.localName = b.localName)
    (each : ∀ part ∈ shape.parts, part.name = a.localName → Noise part.shape a b) :
    Noise shape (.element name attributes (before ++ a :: after))
      (.element name attributes (before ++ b :: after))

namespace Shape

theorem agree_of_children {shape : Shape} {name : ExpandedName} {attributes : List Attribute}
    {as bs : List Node}
    (texts : shape.readsText = true →
      (Node.element name attributes as).trimmedText? = (Node.element name attributes bs).trimmedText?)
    (elements : ∀ part ∈ shape.parts, part.choice.among (as.filter (Node.isNamed part.name)) =
      part.choice.among (bs.filter (Node.isNamed part.name))) :
    shape.agree (.element name attributes as) (.element name attributes bs) := by
  refine agree_of_parts texts (fun _ => rfl) ?_
  intro part member
  change List.Forall₂ _ (part.choice.among (as.filter _)) (part.choice.among (bs.filter _))
  rw [elements part member]
  exact part.shape.forall₂_agree_refl _

theorem ownText_insert {name : ExpandedName} {attributes : List Attribute} {before after : List Node}
    {node : Node} (silent : node.textContent? = none) :
    (Node.element name attributes (before ++ node :: after)).ownText =
      (Node.element name attributes (before ++ after)).ownText := by
  unfold Node.ownText Node.children
  rw [List.filterMap_append, List.filterMap_append, List.filterMap_cons_none silent]

theorem filter_insert {p : Node → Bool} {node : Node} (out : p node = false)
    (before after : List Node) : (before ++ node :: after).filter p = (before ++ after).filter p := by
  rw [List.filter_append, List.filter_append, List.filter_cons_of_neg (by simp [out])]

theorem first_filter_insert {p : Node → Bool} {before : List Node}
    (earlier : ∃ other ∈ before, p other = true) (node : Node) (after : List Node) :
    ((before ++ node :: after).filter p).take 1 = ((before ++ after).filter p).take 1 := by
  obtain ⟨other, member, matched⟩ := earlier
  have found : 1 ≤ (before.filter p).length :=
    List.length_pos_of_mem (List.mem_filter.mpr ⟨member, matched⟩)
  rw [List.filter_append, List.filter_append, List.take_append_of_le_length found,
    List.take_append_of_le_length found]

theorem isNamed_eq_false {node : Node} {name : String} (differs : name ≠ node.localName) :
    node.isNamed name = false := by
  rw [Node.isNamed, beq_false_of_ne differs.symm, Bool.and_false]

theorem textContent?_of_element {node : Node} (element : node.isElement = true) :
    node.textContent? = none := by
  cases node with
  | element name attributes children => rfl
  | _ => contradiction

theorem forall₂_among {R : Node → Node → Prop} {as bs : List Node} (related : List.Forall₂ R as bs)
    (choice : Choice) : List.Forall₂ R (choice.among as) (choice.among bs) := by
  cases choice with
  | first => exact List.forall₂_take 1 related
  | all => exact related

theorem agree_insert {shape : Shape} {name : ExpandedName} {attributes : List Attribute}
    {before after : List Node} {node : Node} (passed : PassedOver shape before node) :
    shape.agree (.element name attributes (before ++ after))
      (.element name attributes (before ++ node :: after)) := by
  have silent : shape.readsText = true → node.textContent? = none := by
    intro reads
    cases passed with
    | comment content => rfl
    | instruction target content => rfl
    | text unread content =>
      rw [reads] at unread
      contradiction
    | element element unknown => exact textContent?_of_element element
    | repeated element earlier first => exact textContent?_of_element element
  apply agree_of_children
  · intro reads
    unfold Node.trimmedText?
    rw [ownText_insert (silent reads)]
  · -- Only a repeated element joins a list of elements that counts, and there it is not the first.
    intro part member
    cases passed with
    | comment content => rw [filter_insert rfl]
    | instruction target content => rw [filter_insert rfl]
    | text unread content => rw [filter_insert rfl]
    | element element unknown => rw [filter_insert (isNamed_eq_false (unknown part member))]
    | repeated element earlier first =>
      by_cases same : part.name = node.localName
      · rw [first part member same, same]
        exact (first_filter_insert earlier node after).symm
      · rw [filter_insert (isNamed_eq_false same)]

theorem agree_split {shape : Shape} {name : ExpandedName} {attributes : List Attribute}
    {before after : List Node} (s t : String) :
    shape.agree (.element name attributes (before ++ .text (s ++ t) :: after))
      (.element name attributes (before ++ .text s :: .text t :: after)) := by
  apply agree_of_children
  · intro _
    unfold Node.trimmedText? Node.ownText Node.children
    simp only [List.filterMap_append, List.filterMap_cons, Node.textContent?, String.join_append,
      String.join_cons, String.append_assoc]
  · intro part _
    rw [filter_insert rfl, filter_insert rfl, filter_insert rfl]

theorem agree_padText {shape : Shape} {name : ExpandedName} {attributes : List Attribute}
    {children padded : List Node} {front back : String} (blank : Blank front ∧ Blank back)
    (joined : (Node.element name attributes padded).ownText =
      front ++ (Node.element name attributes children).ownText ++ back)
    (elements : padded.filter Node.isElement = children.filter Node.isElement) :
    shape.agree (.element name attributes children) (.element name attributes padded) := by
  apply agree_of_children
  · intro _
    unfold Node.trimmedText?
    rw [joined, trimmed?_pad blank.1 blank.2]
  · intro part _
    have same (nodes : List Node) : nodes.filter (Node.isNamed part.name) =
        (nodes.filter Node.isElement).filter (·.localName == part.name) := by
      rw [List.filter_filter]
      apply List.filter_congr
      intro node _
      exact Bool.and_comm _ _
    rw [same, same, elements]

theorem agree_padValue {shape : Shape} {name key : ExpandedName} {before after : List Attribute}
    {children : List Node} {front back : String} (blank : Blank front ∧ Blank back)
    (value : String) :
    shape.agree (.element name (before ++ ⟨key, value⟩ :: after) children)
      (.element name (before ++ ⟨key, front ++ value ++ back⟩ :: after) children) := by
  refine agree_of_parts (fun _ => rfl) ?_ ?_
  · intro sought
    unfold Node.attribute? Node.attributes
    simp only [List.find?_append, List.find?_cons]
    cases before.find? (·.name == ⟨none, sought⟩) with
    | some earlier => rfl
    | none =>
      cases key == ⟨none, sought⟩ with
      | false => rfl
      | true =>
        simp only [Option.none_or, Option.map_some, Option.bind_some,
          trimmed?_pad blank.1 blank.2]
  · intro part _
    exact part.shape.forall₂_agree_refl _

theorem agree_inside {shape : Shape} {name : ExpandedName} {attributes : List Attribute}
    {before after : List Node} {a b : Node} (elements : a.isElement = true ∧ b.isElement = true)
    (names : a.localName = b.localName)
    (each : ∀ part ∈ shape.parts, part.name = a.localName → part.shape.agree a b) :
    shape.agree (.element name attributes (before ++ a :: after))
      (.element name attributes (before ++ b :: after)) := by
  obtain ⟨first, second⟩ := elements
  refine agree_of_parts (fun _ => ?_) (fun _ => rfl) ?_
  · unfold Node.trimmedText?
    rw [ownText_insert (textContent?_of_element first), ownText_insert (textContent?_of_element second)]
  · intro part member
    apply forall₂_among
    have same := part.shape.forall₂_agree_refl
    change List.Forall₂ _ ((before ++ a :: after).filter _) ((before ++ b :: after).filter _)
    rw [List.filter_append, List.filter_append]
    apply List.rel_append (same _)
    by_cases named : part.name = a.localName
    · have matched : a.isNamed part.name = true ∧ b.isNamed part.name = true := by
        unfold Node.isNamed
        rw [first, second, ← names, named, beq_self_eq_true]
        exact ⟨rfl, rfl⟩
      rw [List.filter_cons_of_pos matched.1, List.filter_cons_of_pos matched.2]
      exact .cons (each part member named) (same _)
    · have other : part.name ≠ b.localName := names ▸ named
      rw [List.filter_cons_of_neg (by simp [isNamed_eq_false named]),
        List.filter_cons_of_neg (by simp [isNamed_eq_false other])]
      exact same _

theorem agree_of_noise {shape : Shape} {a b : Node} (edit : Noise shape a b) : shape.agree a b := by
  induction edit with
  | insert before after passed => exact agree_insert passed
  | split before after s t => exact agree_split s t
  | padText _ front back blank joined elements => exact agree_padText blank joined elements
  | padValue before after front value back blank => exact agree_padValue blank value
  | inside before after elements names _ ih => exact agree_inside elements names ih

end Shape

theorem Noise.localName_eq {shape : Shape} {a b : Node} (edit : Noise shape a b) :
    a.localName = b.localName := by
  cases edit <;> rfl

/-- Any sequence of edits, made or taken back, leaves the reading as it was: the result with all its
texts, and the events. -/
theorem Definition.ofNode_eq_of_noise {a b : Node}
    (edits : Relation.EqvGen (Noise .protocol) a b) : Definition.ofNode a = Definition.ofNode b := by
  induction edits with
  | rel a b edit => exact Definition.ofNode_congr edit.localName_eq (Shape.agree_of_noise edit)
  | refl a => rfl
  | symm a b _ ih => exact ih.symm
  | trans a b c _ _ first second => exact first.trans second

open Node in
/-- A name in two pieces with a comment between them and blanks around, and a bad second header. -/
theorem same_reading_with_noise :
    let sections := [plain "structure" [] [leaf "name" "s"],
      plain "header" [] [leaf "name" "h", leaf "id_field_name" "f"]]
    let clear := plain "protocol" [] (leaf "protocolname" "Lelei Protocol" :: sections)
    let noisy := plain "protocol" [] (plain "protocolname" [] [.text "\n Lelei", .comment "x",
      .text " Protocol\t"] :: sections ++ [plain "header" [] []])
    Relation.EqvGen (Noise .protocol) clear noisy ∧
      Definition.ofNode clear = Definition.ofNode noisy := by
  intro sections clear noisy
  let whole := leaf "protocolname" "Lelei Protocol"
  let pieces := plain "protocolname" [] [.text "\n Lelei", .comment "x", .text " Protocol\t"]
  let padded := plain "protocol" [] (pieces :: sections)
  have first : Noise .protocol clear padded := by
    apply Noise.inside (a := whole) (b := pieces) [] sections ⟨rfl, rfl⟩ rfl
    have pad : Noise .leaf whole pieces :=
      .padText rfl "\n " "\t" (by decide) (by decide) rfl
    have named : whole.localName = "protocolname" := rfl
    simpa [Shape.protocol, Shape.parts, named] using pad
  have second : Noise .protocol padded noisy := by
    apply Noise.insert (pieces :: sections) []
    refine .repeated rfl ⟨sections[1], by simp [sections], by decide⟩ ?_
    simp [Shape.protocol, Shape.parts]
  have edits : Relation.EqvGen (Noise .protocol) clear noisy :=
    .trans _ _ _ (.rel _ _ first) (.rel _ _ second)
  exact ⟨edits, Definition.ofNode_eq_of_noise edits⟩

end WireSchema
