import Mathlib.Data.List.Forall2
import WireSchema.Proofs.Reading

/-!
Shapes: what a reading looks at in an element. Two trees agree on a shape if they show the same there,
whatever else they hold, and a reading is the same for trees that agree on the shape of a protocol.
-/
namespace WireSchema
open Text Xml

/-- The elements that count among those of one name: the first of them, or all. -/
inductive Choice
  | first
  | all
  deriving DecidableEq, Repr

def Choice.among {α : Type} : Choice → List α → List α
  | first, items => items.take 1
  | all, items => items

/-- The text of an element, its attributes and its parts, each part with a shape of its own. -/
inductive Shape
  | done
  | text (rest : Shape)
  | value (name : String) (rest : Shape)
  | part (choice : Choice) (name : String) (inner rest : Shape)
  deriving DecidableEq, Repr

namespace Shape

structure Part where
  choice : Choice
  name : String
  shape : Shape

def leaf : Shape := text done

def field : Shape := value "name" (value "type" (value "bits" done))

def fields : Shape := part .all "field" field done

def layout : Shape :=
  part .first "name" leaf (part .first "byte_order" leaf (part .first "fields" fields done))

def header : Shape := part .first "name" leaf (part .first "id_field_name" leaf done)

def enumValue : Shape := value "id" (text done)

def enumValues : Shape := part .all "value" enumValue done

def enumeration : Shape := part .first "name" leaf (part .first "values" enumValues done)

def protocol : Shape :=
  part .first "protocolname" leaf (part .first "protocolshort" leaf
    (part .first "structure" layout (part .first "header" header
      (part .first "enum" enumeration done))))

def readsText : Shape → Bool
  | done => false
  | text _ => true
  | value _ rest | part _ _ _ rest => rest.readsText

def parts : Shape → List Part
  | done => []
  | text rest | value _ rest => rest.parts
  | part choice name inner rest => ⟨choice, name, inner⟩ :: rest.parts

/-- Whether two nodes show the same where the shape looks. -/
def agree : Shape → Node → Node → Prop
  | done, _, _ => True
  | text rest, a, b => a.trimmedText? = b.trimmedText? ∧ rest.agree a b
  | value name rest, a, b =>
    (a.attribute? name).bind trimmed? = (b.attribute? name).bind trimmed? ∧ rest.agree a b
  | part choice name inner rest, a, b =>
    List.Forall₂ inner.agree (choice.among (a.elements name)) (choice.among (b.elements name)) ∧
      rest.agree a b

theorem agree_refl (shape : Shape) (node : Node) : shape.agree node node := by
  induction shape generalizing node with
  | done => trivial
  | text rest ih => exact ⟨rfl, ih node⟩
  | value name rest ih => exact ⟨rfl, ih node⟩
  | part choice name inner rest ihInner ih =>
    refine ⟨?_, ih node⟩
    exact List.forall₂_same.mpr fun item _ => ihInner item

theorem forall₂_agree_refl (shape : Shape) (nodes : List Node) :
    List.Forall₂ shape.agree nodes nodes :=
  List.forall₂_same.mpr fun node _ => shape.agree_refl node

theorem agree_of_parts {shape : Shape} {a b : Node}
    (texts : shape.readsText = true → a.trimmedText? = b.trimmedText?)
    (values : ∀ name, (a.attribute? name).bind trimmed? = (b.attribute? name).bind trimmed?)
    (inside : ∀ part ∈ shape.parts, List.Forall₂ part.shape.agree
      (part.choice.among (a.elements part.name)) (part.choice.among (b.elements part.name))) :
    shape.agree a b := by
  induction shape with
  | done => trivial
  | text rest ih => exact ⟨texts rfl, ih (fun _ => texts rfl) inside⟩
  | value name rest ih => exact ⟨values name, ih texts inside⟩
  | part choice name inner rest _ ih =>
    obtain ⟨here, later⟩ := List.forall_mem_cons.mp inside
    exact ⟨here, ih texts later⟩

end Shape

open Shape

theorem mapM_congr_of_forall₂ {α : Type} {R : Node → Node → Prop} {f : Node → Traced α}
    (same : ∀ a b, R a b → f a = f b) {as bs : List Node} (related : List.Forall₂ R as bs) :
    as.mapM f = bs.mapM f := by
  induction related with
  | nil => rfl
  | cons head tail ih => rw [List.mapM_cons, List.mapM_cons, same _ _ head, ih]

theorem child?_agree {inner : Shape} {a b : Node} {name : String}
    (here : List.Forall₂ inner.agree (Choice.first.among (a.elements name))
      (Choice.first.among (b.elements name))) :
    Option.Rel inner.agree (a.child? name) (b.child? name) := by
  rw [Node.child?_eq_head?, Node.child?_eq_head?]
  generalize a.elements name = as at here ⊢
  generalize b.elements name = bs at here ⊢
  cases as with
  | nil =>
    cases bs with
    | nil => exact .none
    | cons second bs => cases here
  | cons first as =>
    cases bs with
    | nil => cases here
    | cons second bs =>
      cases here with
      | cons same _ => exact .some same

theorem childText?_congr {a b : Node} {name : String}
    (here : List.Forall₂ leaf.agree (Choice.first.among (a.elements name))
      (Choice.first.among (b.elements name))) : a.childText? name = b.childText? name := by
  have found := child?_agree here
  unfold Node.childText?
  generalize a.child? name = x at found ⊢
  generalize b.child? name = y at found ⊢
  cases found with
  | none => rfl
  | some same =>
    have texts : Node.trimmedText? _ = Node.trimmedText? _ := same.1
    rw [Option.bind_some, Option.bind_some, texts]

theorem listed_mapM_congr {α : Type} {inner : Shape} {f : Node → Traced α}
    (same : ∀ a b, inner.agree a b → f a = f b) {a b : Node} {list item : String}
    (here : List.Forall₂ (part .all item inner done).agree (Choice.first.among (a.elements list))
      (Choice.first.among (b.elements list))) :
    (a.listed list item).mapM f = (b.listed list item).mapM f := by
  have found := child?_agree here
  unfold Node.listed
  generalize a.child? list = x at found ⊢
  generalize b.child? list = y at found ⊢
  cases found with
  | none => rfl
  | some both => exact mapM_congr_of_forall₂ same both.1

theorem Field.ofNode_congr {a b : Node} (same : field.agree a b) :
    Field.ofNode a = Field.ofNode b := by
  obtain ⟨name, typeName, bits, _⟩ := same
  unfold Field.ofNode requiredAttribute
  rw [name, typeName, bits]

theorem Layout.ofNode_congr {a b : Node}
    (same : Option.Rel layout.agree (a.child? "structure") (b.child? "structure")) :
    Layout.ofNode a = Layout.ofNode b := by
  unfold Layout.ofNode ByteOrder.ofNode sectionOf
  generalize a.child? "structure" = x at same ⊢
  generalize b.child? "structure" = y at same ⊢
  cases same with
  | none => rfl
  | some both =>
    obtain ⟨name, byteOrder, fields, _⟩ := both
    simp only [Traced.structural, Journal.require_some_bind, requiredText, Option.bind_some,
      childText?_congr name, childText?_congr byteOrder,
      listed_mapM_congr (fun _ _ => Field.ofNode_congr) fields]

theorem Header.ofNode_congr {a b : Node}
    (same : Option.Rel header.agree (a.child? "header") (b.child? "header")) :
    Header.ofNode a = Header.ofNode b := by
  unfold Header.ofNode sectionOf
  generalize a.child? "header" = x at same ⊢
  generalize b.child? "header" = y at same ⊢
  cases same with
  | none => rfl
  | some both =>
    obtain ⟨name, idFieldName, _⟩ := both
    simp only [Traced.structural, Journal.require_some_bind, requiredText, childText?_congr name,
      childText?_congr idFieldName]

theorem EnumValue.ofNode_congr {a b : Node} (same : enumValue.agree a b) :
    EnumValue.ofNode a = EnumValue.ofNode b := by
  obtain ⟨id, text, _⟩ := same
  unfold EnumValue.ofNode requiredAttribute
  rw [id, text]

theorem Enumeration.ofNode_congr {a b : Node} (same : enumeration.agree a b) :
    Enumeration.ofNode a = Enumeration.ofNode b := by
  obtain ⟨name, values, _⟩ := same
  unfold Enumeration.ofNode
  rw [childText?_congr name, listed_mapM_congr (fun _ _ => EnumValue.ofNode_congr) values]

theorem Protocol.ofNode_congr {a b : Node}
    (name : a.childText? "protocolname" = b.childText? "protocolname")
    (shortName : a.childText? "protocolshort" = b.childText? "protocolshort") :
    Protocol.ofNode a = Protocol.ofNode b := by
  unfold Protocol.ofNode
  rw [name, shortName]

theorem sectionOf_congr {shape : Shape} {a b : Node} {name : String}
    (same : Option.Rel shape.agree (a.child? name) (b.child? name)) {α : Type} (rest : Traced α) :
    (sectionOf a name >>= fun _ => rest) = (sectionOf b name >>= fun _ => rest) := by
  unfold sectionOf
  generalize a.child? name = x at same ⊢
  generalize b.child? name = y at same ⊢
  cases same <;> rfl

theorem Definition.enumerated_congr {a b : Node}
    (same : Option.Rel enumeration.agree (a.child? "enum") (b.child? "enum")) :
    enumerated a = enumerated b := by
  unfold enumerated
  generalize a.child? "enum" = x at same ⊢
  generalize b.child? "enum" = y at same ⊢
  cases same with
  | none => rfl
  | some both => exact congrArg (some <$> ·) (Enumeration.ofNode_congr both)

/-- Reading sees no more of a tree than the shape of a protocol shows. -/
theorem Definition.ofNode_congr {a b : Node} (rootName : a.localName = b.localName)
    (same : Shape.protocol.agree a b) : Definition.ofNode a = Definition.ofNode b := by
  obtain ⟨name, shortName, layout, header, enumeration, _⟩ := same
  have root : named a = named b := by
    unfold named
    rw [rootName]
  rw [ofNode_eq_parts, ofNode_eq_parts, root, sectionOf_congr (child?_agree layout),
    sectionOf_congr (child?_agree header),
    Protocol.ofNode_congr (childText?_congr name) (childText?_congr shortName),
    Layout.ofNode_congr (child?_agree layout), Header.ofNode_congr (child?_agree header),
    enumerated_congr (child?_agree enumeration)]

end WireSchema
