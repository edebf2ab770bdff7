import WireSchema.Definition.OfNode
import WireSchema.Proofs.Agenda
import WireSchema.Proofs.Literal

/-!
The rules of a definition, in the order in which they are checked, and what a tree describes that
keeps them. Each part of a tree has an agenda: its rules, and the event that follows them. Reading
follows these agendas. A text that is missing stands for an empty one here, and a missing element for
one without anything in it; the rules tell where that is allowed.
-/
namespace WireSchema
open Text Xml Agenda

namespace Xml.Node

/-- The first child with the name, or a node without anything. -/
def first (node : Node) (name : String) : Node := (node.child? name).getD (.document [])

def textOf (node : Node) (name : String) : String := (node.first name).ownText

def valueOf (node : Node) (name : String) : String := (node.attribute? name).getD ""

theorem first_of_child? {node child : Node} {name : String} (found : node.child? name = some child) :
    node.first name = child := by
  rw [first, found, Option.getD_some]

theorem childText?_eq_trimmed? (node : Node) (name : String) :
    node.childText? name = trimmed? (node.textOf name) := by
  unfold childText? textOf first
  cases node.child? name with
  | none => simp [ownText, children, trimmed?_empty]
  | some child => rw [Option.bind_some, Option.getD_some, trimmedText?]

theorem bind_childText? (node : Node) (name child : String) :
    (node.child? name).bind (·.childText? child) = (node.first name).childText? child := by
  unfold first
  cases node.child? name with
  | none => simp [childText?, child?, children]
  | some found => rfl

theorem attribute?_bind_trimmed? (node : Node) (name : String) :
    (node.attribute? name).bind trimmed? = trimmed? (node.valueOf name) := by
  unfold valueOf
  cases node.attribute? name with
  | none => rw [Option.bind_none, Option.getD_none, trimmed?_empty]
  | some value => rw [Option.bind_some, Option.getD_some]

theorem listed_eq_elements (node : Node) (list item : String) :
    node.listed list item = (node.first list).elements item := by
  unfold listed first
  cases node.child? list <;> rfl

end Xml.Node

namespace Field

def rules (node : Node) : List (Rule ParseError) :=
  [⟨¬Blank (node.valueOf "name"), .value (.missingAttribute "field" "name")⟩,
   ⟨¬Blank (node.valueOf "type"), .value (.missingAttribute "field" "type")⟩,
   ⟨¬Blank (node.valueOf "bits"), .value (.missingAttribute "field" "bits")⟩,
   ⟨∃ bits, DenotesWidth (trim (node.valueOf "bits")) bits,
    .value (.invalidBits (trim (node.valueOf "name")) (trim (node.valueOf "bits")))⟩]

def describedBy (node : Node) : Field where
  name := trim (node.valueOf "name")
  typeName := trim (node.valueOf "type")
  bits := (widthOfLiteral? (trim (node.valueOf "bits"))).getD default

end Field

namespace ByteOrder

/-- The byte order of a layout may be left out; otherwise it is one of the three tokens. -/
def rule (node : Node) : Rule ParseError where
  holds := Blank (node.textOf "byte_order") ∨
    trim (node.textOf "byte_order") ∈ ["big_endian", "little_endian", "as_host"]
  failure := .value (.unknownByteOrder (trim (node.textOf "byte_order")))

def describedBy (node : Node) : ByteOrder :=
  (ofToken? (trim (node.textOf "byte_order"))).getD .standard

end ByteOrder

namespace Layout

def fieldNodes (node : Node) : List Node := (node.first "fields").elements "field"

def rules (node : Node) : List (Rule ParseError) :=
  [⟨¬Blank (node.textOf "name"), .structural (.missingElement "structure" "name")⟩,
   ByteOrder.rule node] ++ (fieldNodes node).flatMap Field.rules

def describedBy (node : Node) : Layout where
  name := trim (node.textOf "name")
  byteOrder := ByteOrder.describedBy node
  fields := (fieldNodes node).map Field.describedBy

def agenda (node : Node) : Agenda Event ParseError :=
  checks (rules node) ++ [.record (.readLayout (describedBy node))]

end Layout

namespace Header

def rules (node : Node) : List (Rule ParseError) :=
  [⟨¬Blank (node.textOf "name"), .structural (.missingElement "header" "name")⟩,
   ⟨¬Blank (node.textOf "id_field_name"), .structural (.missingElement "header" "id_field_name")⟩]

def describedBy (node : Node) : Header where
  name := trim (node.textOf "name")
  idFieldName := trim (node.textOf "id_field_name")

def agenda (node : Node) : Agenda Event ParseError :=
  checks (rules node) ++ [.record (.readHeader (describedBy node))]

end Header

namespace EnumValue

def rules (node : Node) : List (Rule ParseError) :=
  [⟨¬Blank (node.valueOf "id"), .value (.missingAttribute "value" "id")⟩,
   ⟨∃ id, DenotesId (trim (node.valueOf "id")) id,
    .value (.invalidEnumId (trim (node.valueOf "id")))⟩,
   ⟨¬Blank node.ownText, .value (.missingText "value")⟩]

def describedBy (node : Node) : EnumValue where
  id := (idOfLiteral? (node.valueOf "id")).getD default
  name := trim node.ownText

def agenda (node : Node) : Agenda Event ParseError :=
  checks (rules node) ++ [.record (.readEnumValue (describedBy node))]

end EnumValue

namespace Enumeration

def valueNodes (node : Node) : List Node := (node.first "values").elements "value"

def nameRule (node : Node) : Rule ParseError :=
  ⟨¬Blank (node.textOf "name"), .value (.missingText "name")⟩

def rules (node : Node) : List (Rule ParseError) :=
  nameRule node :: (valueNodes node).flatMap EnumValue.rules

def describedBy (node : Node) : Enumeration where
  name := trim (node.textOf "name")
  values := (valueNodes node).map EnumValue.describedBy

def agenda (node : Node) : Agenda Event ParseError :=
  .check (nameRule node) :: (valueNodes node).flatMap EnumValue.agenda ++
    [.record (.readEnumeration (describedBy node))]

end Enumeration

namespace Protocol

def nameRule (root : Node) : Rule ParseError :=
  ⟨¬Blank (root.textOf "protocolname"), .value .missingProtocolName⟩

def describedBy (root : Node) : Protocol where
  name := trim (root.textOf "protocolname")
  shortName :=
    if Blank (root.textOf "protocolshort") then shortNameOf (trim (root.textOf "protocolname"))
    else trim (root.textOf "protocolshort")

def agenda (root : Node) : Agenda Event ParseError :=
  .check (nameRule root) ::
    if Blank (root.textOf "protocolshort") then [.record (.derivedShortName (describedBy root))]
    else []

end Protocol

namespace Definition

def sectionRule (root : Node) (name : String) : Rule ParseError :=
  ⟨(root.child? name).isSome, .structural (.missingSection name)⟩

/-- The rules on the shape of a definition. They come before all rules on the parts. -/
def shapeRules (root : Node) : List (Rule ParseError) :=
  [⟨root.localName = "protocol", .structural (.unexpectedRoot root.localName)⟩,
   sectionRule root "structure", sectionRule root "header"]

/-- The rules on all but the enumeration. -/
def headRules (root : Node) : List (Rule ParseError) :=
  shapeRules root ++ [Protocol.nameRule root] ++ Layout.rules (root.first "structure") ++
    Header.rules (root.first "header")

def rules (root : Node) : List (Rule ParseError) :=
  headRules root ++ (root.child? "enum").elim [] Enumeration.rules

def describedBy (root : Node) : Definition where
  protocol := .describedBy root
  layout := .describedBy (root.first "structure")
  header := .describedBy (root.first "header")
  enumeration? := (root.child? "enum").map .describedBy

def headAgenda (root : Node) : Agenda Event ParseError :=
  checks (shapeRules root) ++ Protocol.agenda root ++ Layout.agenda (root.first "structure") ++
    Header.agenda (root.first "header")

def agenda (root : Node) : Agenda Event ParseError :=
  headAgenda root ++ (root.child? "enum").elim [] Enumeration.agenda ++
    [.record (.readDefinition (describedBy root))]

end Definition

section
variable {P : Rule ParseError → Prop} {node root : Node}

theorem Layout.forall_mem_rules :
    (∀ rule ∈ rules node, P rule) ↔
      P ⟨¬Blank (node.textOf "name"), .structural (.missingElement "structure" "name")⟩ ∧
      P (ByteOrder.rule node) ∧ ∀ field ∈ fieldNodes node, ∀ rule ∈ Field.rules field, P rule := by
  simp only [rules, List.cons_append, List.nil_append, List.forall_mem_cons, List.forall_mem_flatMap]

theorem Enumeration.forall_mem_rules :
    (∀ rule ∈ rules node, P rule) ↔
      P (nameRule node) ∧ ∀ value ∈ valueNodes node, ∀ rule ∈ EnumValue.rules value, P rule := by
  simp only [rules, List.forall_mem_cons, List.forall_mem_flatMap]

theorem Definition.forall_mem_rules :
    (∀ rule ∈ rules root, P rule) ↔
      (∀ rule ∈ shapeRules root, P rule) ∧ P (Protocol.nameRule root) ∧
      (∀ rule ∈ Layout.rules (root.first "structure"), P rule) ∧
      (∀ rule ∈ Header.rules (root.first "header"), P rule) ∧
      ∀ node ∈ root.child? "enum", ∀ rule ∈ Enumeration.rules node, P rule := by
  have enumeration : (∀ rule ∈ (root.child? "enum").elim [] Enumeration.rules, P rule) ↔
      ∀ node ∈ root.child? "enum", ∀ rule ∈ Enumeration.rules node, P rule := by
    cases root.child? "enum" <;> simp
  simp only [rules, headRules, List.forall_mem_append, List.forall_mem_singleton, enumeration,
    and_assoc]

end

end WireSchema
