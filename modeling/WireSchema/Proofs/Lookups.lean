import WireSchema.Proofs.LiteralForms
import WireSchema.Proofs.Written

/-!
Lookups in a definition that has been read. Each answers with what the first element with the key
declares, so an element that repeats the key of one before it makes no difference to any lookup.
-/
namespace WireSchema
open Text Xml

section
variable {α β γ : Type} {P : α → Prop} {p : α → Bool} {repeats : α → α → Prop} {xs ys : List α} {x : α}

/-- Whether an item has a property that no item before it has. -/
def IsFirst (P : α → Prop) (xs : List α) (x : α) : Prop :=
  ∃ before after, xs = before ++ x :: after ∧ P x ∧ ∀ y ∈ before, ¬P y

/-- Whether a lookup finds what the first item with a property declares, and nothing if there is none. -/
structure FindsFirst (P : α → Prop) (declares : α → β → Prop) (xs : List α) (found? : Option β) :
    Prop where
  some : ∀ b, found? = some b ↔ ∃ x, IsFirst P xs x ∧ declares x b
  none : found? = none ↔ ∀ x ∈ xs, ¬P x

/-- A list with more items put in, each of which repeats one that stands somewhere before it. -/
inductive WithRepeats (repeats : α → α → Prop) (xs : List α) : List α → Prop
  | same : WithRepeats repeats xs xs
  | insert (before after : List α) {x y : α} (inner : WithRepeats repeats xs (before ++ after))
    (earlier : y ∈ before) (again : repeats x y) : WithRepeats repeats xs (before ++ x :: after)

theorem find?_eq_some_iff_isFirst (same : ∀ x ∈ xs, p x = true ↔ P x) :
    xs.find? p = some x ↔ IsFirst P xs x := by
  rw [List.find?_eq_some_iff_append]
  constructor
  · rintro ⟨has, before, after, rfl, others⟩
    refine ⟨before, after, rfl, (same x (by simp)).mp has, ?_⟩
    intro y member has
    have other := others y member
    rw [(same y (by simp [member])).mpr has] at other
    contradiction
  · rintro ⟨before, after, rfl, has, others⟩
    refine ⟨(same x (by simp)).mpr has, before, after, rfl, ?_⟩
    intro y member
    rw [Bool.not_eq_true']
    exact Bool.eq_false_iff.mpr (mt (same y (by simp [member])).mp (others y member))

/-- Looking up among what items were read as finds the first item, if reading keeps the property. -/
theorem findsFirst_map {declares : α → γ → Prop} (read : α → β) (q : β → Bool) (answer : β → γ)
    (same : ∀ x ∈ xs, q (read x) = true ↔ P x)
    (answers : ∀ x ∈ xs, ∀ c, declares x c ↔ answer (read x) = c) :
    FindsFirst P declares xs (((xs.map read).find? q).map answer) where
  some c := by
    rw [List.find?_map, Option.map_map, Option.map_eq_some_iff]
    apply exists_congr
    intro x
    have first := find?_eq_some_iff_isFirst (x := x) (p := q ∘ read) same
    rw [first, and_congr_right_iff]
    rintro ⟨before, after, rfl, _⟩
    exact (answers x (by simp) c).symm
  none := by
    rw [List.find?_map, Option.map_map, Option.map_eq_none_iff, List.find?_eq_none]
    exact forall₂_congr fun x member => not_congr (same x member)

theorem WithRepeats.find?_eq (more : WithRepeats repeats xs ys)
    (kept : ∀ x y, repeats x y → p x = true → p y = true) : ys.find? p = xs.find? p := by
  induction more with
  | same => rfl
  | @insert before after x y _ earlier again ih =>
    rw [← ih, List.find?_append, List.find?_append]
    cases found : before.find? p with
    | some z => rfl
    | none =>
      have other : p x = false := by
        rw [Bool.eq_false_iff]
        exact fun has => List.find?_eq_none.mp found y earlier (kept x y again has)
      rw [Option.none_or, Option.none_or, List.find?_cons_of_neg (by simp [other])]

end

namespace Xml.Node

/-- Whether the node has a name attribute, without a namespace, with the name between blanks. -/
def HasName (node : Node) (name : String) : Prop := (node.attribute? "name").map trim = some name

/-- Whether the node has an id literal that denotes the number, in either notation. -/
def HasId (node : Node) (id : UInt64) : Prop :=
  ∃ literal, node.attribute? "id" = some literal ∧
    (IsHexadecimal (trim literal) id.toNat ∨ IsDecimal (trim literal) id.toNat)

def SameName (node other : Node) : Prop := ∃ name, node.HasName name ∧ other.HasName name

def SameId (node other : Node) : Prop := ∃ id, node.HasId id ∧ other.HasId id

theorem exists_attribute_of_valueOf {node : Node} {key : String}
    (given : ¬Blank (node.valueOf key)) : node.attribute? key = some (node.valueOf key) := by
  unfold valueOf at given ⊢
  cases found : node.attribute? key with
  | none =>
    rw [found, Option.getD_none] at given
    exact absurd (by simp [Blank]) given
  | some value => rfl

theorem trim_valueOf_of_hasName {node : Node} {name : String} (has : node.HasName name) :
    trim (node.valueOf "name") = name := by
  obtain ⟨value, found, same⟩ := Option.map_eq_some_iff.mp has
  rw [valueOf, found, Option.getD_some, same]

theorem idOfLiteral?_valueOf_of_hasId {node : Node} {id : UInt64} (has : node.HasId id) :
    idOfLiteral? (node.valueOf "id") = some id := by
  obtain ⟨literal, found, form⟩ := has
  rw [← denotesHexadecimal_iff, ← denotesDecimal_iff] at form
  rw [valueOf, found, Option.getD_some]
  exact idOfLiteral?_eq_some_iff.mpr form

theorem hasName_iff {node : Node} {name : String} (given : ¬Blank (node.valueOf "name")) :
    node.HasName name ↔ trim (node.valueOf "name") = name := by
  rw [HasName, exists_attribute_of_valueOf given, Option.map_some, Option.some_inj]

theorem hasId_iff {node : Node} {id : UInt64} (given : ¬Blank (node.valueOf "id")) :
    node.HasId id ↔ idOfLiteral? (node.valueOf "id") = some id := by
  constructor
  · exact idOfLiteral?_valueOf_of_hasId
  · intro read
    refine ⟨_, exists_attribute_of_valueOf given, ?_⟩
    rwa [idOfLiteral?_eq_some_iff, DenotesId, denotesHexadecimal_iff, denotesDecimal_iff] at read

end Xml.Node

open Xml.Node

theorem Field.name_describedBy_iff {node : Node} {name : String}
    (kept : ∀ rule ∈ rules node, rule.holds = true) :
    ((describedBy node).name == name) = true ↔ node.HasName name := by
  simp only [rules, List.forall_mem_cons, decide_eq_true_eq] at kept
  rw [hasName_iff kept.1, beq_iff_eq]
  rfl

theorem Field.ofNode_result_eq_ok_iff {node : Node} {field : Field}
    (kept : ∀ rule ∈ rules node, rule.holds = true) :
    (Field.ofNode node).result = .ok field ↔ describedBy node = field := by
  rw [Field.ofNode_eq_run, Agenda.run_result_eq_ok_iff, Agenda.rules_checks, eq_comm (a := field)]
  exact and_iff_right kept

theorem EnumValue.id_describedBy_iff {node : Node} {id : UInt64}
    (kept : ∀ rule ∈ rules node, rule.holds = true) :
    ((describedBy node).id == id) = true ↔ node.HasId id := by
  simp only [rules, List.forall_mem_cons, decide_eq_true_eq] at kept
  obtain ⟨given, ⟨own, denoted⟩, _⟩ := kept
  have read := idOfLiteral?_eq_some_iff.mpr denoted
  rw [hasId_iff given, beq_iff_eq, describedBy, read, Option.getD_some, Option.some_inj]

namespace Layout

theorem findsFirst_field? {node : Node} (kept : ∀ rule ∈ rules node, rule.holds = true)
    (name : String) :
    FindsFirst (·.HasName name) (fun node field => (Field.ofNode node).result = .ok field)
      (fieldNodes node) ((describedBy node).field? name) := by
  obtain ⟨_, _, inside⟩ := forall_mem_rules.mp kept
  have finds := findsFirst_map Field.describedBy (·.name == name) id
    (fun node member => Field.name_describedBy_iff (inside node member))
    (fun node member field => Field.ofNode_result_eq_ok_iff (inside node member))
  rwa [Option.map_id] at finds

theorem field?_of_repeats {node other : Node}
    (more : WithRepeats SameName (fieldNodes node) (fieldNodes other)) (name : String) :
    (describedBy other).field? name = (describedBy node).field? name := by
  unfold field? describedBy
  rw [List.find?_map, List.find?_map, more.find?_eq]
  rintro x y ⟨shared, has, has'⟩ found
  simp only [Function.comp_apply, Field.describedBy, beq_iff_eq] at found ⊢
  rw [trim_valueOf_of_hasName has', ← found, trim_valueOf_of_hasName has]

end Layout

namespace Enumeration

theorem findsFirst_label? {node : Node} (kept : ∀ rule ∈ rules node, rule.holds = true)
    (id : UInt64) :
    FindsFirst (·.HasId id) (fun node label => trim node.ownText = label)
      (valueNodes node) ((describedBy node).label? id) := by
  obtain ⟨_, inside⟩ := forall_mem_rules.mp kept
  exact findsFirst_map EnumValue.describedBy (·.id == id) (·.name)
    (fun node member => EnumValue.id_describedBy_iff (inside node member))
    (fun node _ label => Iff.rfl)

theorem label?_of_repeats {node other : Node}
    (more : WithRepeats SameId (valueNodes node) (valueNodes other)) (id : UInt64) :
    (describedBy other).label? id = (describedBy node).label? id := by
  unfold label? describedBy
  rw [List.find?_map, List.find?_map, more.find?_eq]
  rintro x y ⟨shared, has, has'⟩ found
  simp only [Function.comp_apply, EnumValue.describedBy] at found ⊢
  rwa [idOfLiteral?_valueOf_of_hasId has', ← idOfLiteral?_valueOf_of_hasId has]

end Enumeration

namespace Definition

/-- Lookups in what an accepted tree was read as find what the first element with the name or the id
declares, the name with blanks around it and the id in either notation, and nothing if there is no such
element. If a further accepted tree only adds elements that repeat the name or the id of an earlier one,
lookups in it give the same. -/
theorem lookups_find_first {root : Node} {d : Definition}
    (accepted : (Definition.ofNode root).result = .ok d) :
    let fields := fun root : Node => Layout.fieldNodes (root.first "structure")
    let values := fun root : Node => Enumeration.valueNodes (root.first "enum")
    let idFieldName := fun root : Node => trim ((root.first "header").textOf "id_field_name")
    let declares := fun (node : Node) (field : Field) => (Field.ofNode node).result = .ok field
    (∀ name, FindsFirst (·.HasName name) declares (fields root) (d.layout.field? name)) ∧
    FindsFirst (·.HasName (idFieldName root)) declares (fields root) d.idField? ∧
    (d.enumeration?.isSome = (root.child? "enum").isSome ∧
      ∀ enumeration ∈ d.enumeration?, ∀ id,
        FindsFirst (·.HasId id) (fun node label => trim node.ownText = label) (values root)
          (enumeration.label? id)) ∧
    ∀ other d', (Definition.ofNode other).result = .ok d' →
      (WithRepeats SameName (fields root) (fields other) →
        (∀ name, d'.layout.field? name = d.layout.field? name) ∧
        (idFieldName other = idFieldName root → d'.idField? = d.idField?)) ∧
      (WithRepeats SameId (values root) (values other) →
        ∀ enumeration ∈ d.enumeration?, ∀ enumeration' ∈ d'.enumeration?, ∀ id,
          enumeration'.label? id = enumeration.label? id) := by
  intro fields values idFieldName declares
  obtain ⟨kept, rfl⟩ := ((ofNode_result_iff_rules root).1 d).mp accepted
  obtain ⟨_, _, layout, _, enumerated⟩ := forall_mem_rules.mp kept
  have found (name : String) := Layout.findsFirst_field? layout name
  refine ⟨found, found (idFieldName root), ⟨Option.isSome_map, ?_⟩, ?_⟩
  · rintro enumeration member id
    obtain ⟨node, child, rfl⟩ := Option.map_eq_some_iff.mp member
    simp only [values, first_of_child? child]
    exact Enumeration.findsFirst_label? (enumerated node child) id
  · intro other d' accepted'
    obtain ⟨_, rfl⟩ := ((ofNode_result_iff_rules other).1 d').mp accepted'
    constructor
    · intro more
      have same (name : String) := Layout.field?_of_repeats more name
      refine ⟨same, ?_⟩
      intro agree
      calc
        _ = (Layout.describedBy (other.first "structure")).field? (idFieldName other) := rfl
        _ = (Layout.describedBy (root.first "structure")).field? (idFieldName root) := by
          rw [agree, same]
    · rintro more enumeration member enumeration' member' id
      obtain ⟨node, child, rfl⟩ := Option.map_eq_some_iff.mp member
      obtain ⟨node', child', rfl⟩ := Option.map_eq_some_iff.mp member'
      simp only [values, first_of_child? child, first_of_child? child'] at more
      exact Enumeration.label?_of_repeats more id

/-- A second field of the same name and a second value of the same id, written in the other notation. -/
theorem lookups_among_repeated_names :
    let tree := fun fields values : List Node => plain "protocol" [] [leaf "protocolname" "p",
      plain "structure" [] [leaf "name" "s", plain "fields" [] fields],
      plain "header" [] [leaf "name" "h", leaf "id_field_name" " kind "],
      plain "enum" [] [leaf "name" "e", plain "values" [] values]]
    let kind := plain "field" [("name", "kind"), ("type", "uint8"), ("bits", "8")] []
    let length := plain "field" [("name", "length"), ("type", "uint16"), ("bits", "16")] []
    let again := plain "field" [("name", " kind"), ("type", "uint32"), ("bits", "32")] []
    let hello := plain "value" [("id", "0x64")] [.text " Hello"]
    let bye := plain "value" [("id", "100")] [.text "Bye"]
    let root := tree [kind, length] [hello]
    let other := tree [kind, length, again] [hello, bye]
    ∃ d, (Definition.ofNode root).result = .ok d ∧
      ∃ d', (Definition.ofNode other).result = .ok d' ∧
        d'.idField? = some ⟨"kind", "uint8", 8⟩ ∧ d'.layout.field? "kin" = none ∧
        d'.enumeration?.bind (·.label? 100) = some "Hello" ∧
        d'.layout.field? "kind" = d.layout.field? "kind" ∧ d'.idField? = d.idField? ∧
        ∀ enumeration ∈ d.enumeration?, ∀ enumeration' ∈ d'.enumeration?,
          enumeration'.label? 100 = enumeration.label? 100 := by
  intro tree kind length again hello bye root other
  let kindField : Field := ⟨"kind", "uint8", 8⟩
  let lengthField : Field := ⟨"length", "uint16", 16⟩
  let d : Definition := ⟨⟨"p", "p"⟩, ⟨"s", .bigEndian, [kindField, lengthField]⟩, ⟨"h", "kind"⟩,
    some ⟨"e", [⟨100, "Hello"⟩]⟩⟩
  let d' : Definition := ⟨⟨"p", "p"⟩,
    ⟨"s", .bigEndian, [kindField, lengthField, ⟨"kind", "uint32", 32⟩]⟩, ⟨"h", "kind"⟩,
    some ⟨"e", [⟨100, "Hello"⟩, ⟨100, "Bye"⟩]⟩⟩
  have accepted : (Definition.ofNode root).result = .ok d := by decide +kernel
  have accepted' : (Definition.ofNode other).result = .ok d' := by decide +kernel
  obtain ⟨_, _, _, later⟩ := lookups_find_first accepted
  obtain ⟨ofFields, ofValues⟩ := later other d' accepted'
  have sameName : SameName again kind :=
    ⟨"kind", (by decide +kernel : _ = _), (by decide +kernel : _ = _)⟩
  have sameId : SameId bye hello := by
    have decimal : trim "100" = "100" := by decide +kernel
    have hexadecimal : trim "0x64" = "0x64" := by decide +kernel
    refine ⟨100, ⟨"100", rfl, .inr ?_⟩, ⟨"0x64", rfl, .inl ?_⟩⟩
    · rw [decimal]
      exact ⟨['1', '0', '0'], by decide, by decide +kernel⟩
    · rw [hexadecimal]
      exact ⟨['6', '4'], by decide, by decide +kernel⟩
  have fields : WithRepeats SameName [kind, length] [kind, length, again] :=
    .insert [kind, length] [] .same List.mem_cons_self sameName
  have values : WithRepeats SameId [hello] [hello, bye] :=
    .insert [hello] [] .same List.mem_cons_self sameId
  obtain ⟨field, idField⟩ := ofFields fields
  exact ⟨d, accepted, d', accepted', by decide +kernel, by decide +kernel, by decide +kernel,
    field "kind", idField rfl, fun e member e' member' => ofValues values e member e' member' 100⟩

end Definition

end WireSchema
