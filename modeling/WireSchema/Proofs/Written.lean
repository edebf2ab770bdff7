import WireSchema.Proofs.Rules

/-!
Written definitions: the tree of a definition in its documented shape, with every part that may be
left out. Reading the tree of a clean definition, one that has only clean texts and widths that are
not zero, breaks no rule and describes the definition.
-/
namespace WireSchema
open Text Xml

namespace Xml.Node

def plain (name : String) (attributes : List (String × String)) (children : List Node) : Node :=
  .element ⟨none, name⟩ (attributes.map fun pair => ⟨⟨none, pair.1⟩, pair.2⟩) children

def leaf (name content : String) : Node := plain name [] [.text content]

@[simp] theorem localName_plain (name : String) (attributes : List (String × String))
    (children : List Node) : (plain name attributes children).localName = name := rfl

@[simp] theorem isNamed_plain (name other : String) (attributes : List (String × String))
    (children : List Node) : (plain name attributes children).isNamed other = (name == other) := rfl

@[simp] theorem isNamed_leaf (name other content : String) :
    (leaf name content).isNamed other = (name == other) := rfl

@[simp] theorem child?_plain (name other : String) (attributes : List (String × String))
    (children : List Node) :
    (plain name attributes children).child? other = children.find? (isNamed other) := rfl

@[simp] theorem ownText_leaf (name content : String) : (leaf name content).ownText = content := by
  simp [ownText, leaf, plain, children, textContent?, String.join]

theorem valueOf_plain (name key : String) (pairs : List (String × String))
    (children : List Node) :
    (plain name pairs children).valueOf key =
      ((pairs.find? (·.1 == key)).map (·.2)).getD "" := by
  have same (pair : String × String) :
      ((⟨none, pair.1⟩ : ExpandedName) == ⟨none, key⟩) = (pair.1 == key) := by
    rw [Bool.eq_iff_iff, beq_iff_eq, beq_iff_eq, ExpandedName.mk.injEq]
    exact and_iff_right rfl
  unfold valueOf attribute? plain attributes
  rw [List.find?_map, Option.map_map]
  simp only [Function.comp_def, same]

theorem elements_plain {name item : String} {attributes : List (String × String)}
    {children : List Node} (all : ∀ node ∈ children, node.isNamed item = true) :
    (plain name attributes children).elements item = children :=
  List.filter_eq_self.mpr all

end Xml.Node

open Xml.Node

def Field.toNode (field : Field) : Node :=
  plain "field" [("name", field.name), ("type", field.typeName),
    ("bits", decimal field.bits.toNat)] []

def Layout.toNode (layout : Layout) : Node :=
  plain "structure" [] [leaf "byte_order" layout.byteOrder.token,
    plain "fields" [] (layout.fields.map Field.toNode), leaf "name" layout.name]

def Header.toNode (header : Header) : Node :=
  plain "header" [] [leaf "name" header.name, leaf "id_field_name" header.idFieldName]

def EnumValue.toNode (numeral : IdNumeral) (value : EnumValue) : Node :=
  plain "value" [("id", numeral.write value.id)] [.text value.name]

/-- The numeral of each id is chosen by its place. -/
def Enumeration.toNode (numerals : Nat → IdNumeral) (enumeration : Enumeration) : Node :=
  plain "enum" [] [leaf "name" enumeration.name,
    plain "values" [] (enumeration.values.mapIdx fun i value => value.toNode (numerals i))]

def Definition.toNode (numerals : Nat → IdNumeral) (d : Definition) : Node :=
  plain "protocol" [] ([leaf "protocolname" d.protocol.name,
    leaf "protocolshort" d.protocol.shortName, d.layout.toNode, d.header.toNode] ++
    (d.enumeration?.map (·.toNode numerals)).toList)

structure Field.Clean (field : Field) : Prop where
  name : Text.Clean field.name
  typeName : Text.Clean field.typeName
  bits : 0 < field.bits

structure Enumeration.Clean (enumeration : Enumeration) : Prop where
  name : Text.Clean enumeration.name
  values : ∀ value ∈ enumeration.values, Text.Clean value.name

/-- Every text of the definition is clean and no field is empty. -/
structure Definition.Clean (d : Definition) : Prop where
  protocolName : Text.Clean d.protocol.name
  shortName : Text.Clean d.protocol.shortName
  layoutName : Text.Clean d.layout.name
  fields : ∀ field ∈ d.layout.fields, field.Clean
  headerName : Text.Clean d.header.name
  idFieldName : Text.Clean d.header.idFieldName
  enumeration : ∀ enumeration ∈ d.enumeration?, enumeration.Clean

theorem Field.valueOf_toNode (field : Field) :
    field.toNode.valueOf "name" = field.name ∧ field.toNode.valueOf "type" = field.typeName ∧
      field.toNode.valueOf "bits" = decimal field.bits.toNat := by
  simp [toNode, valueOf_plain]

theorem Field.denotesWidth_bits {field : Field} (clean : field.Clean) :
    DenotesWidth (decimal field.bits.toNat) field.bits :=
  ⟨clean.bits, denotesDecimal_decimal _⟩

theorem Field.rules_toNode {field : Field} (clean : field.Clean) :
    ∀ rule ∈ rules field.toNode, rule.holds = true := by
  have width := denotesWidth_bits clean
  obtain ⟨name, typeName, bits⟩ := field.valueOf_toNode
  have read : ∃ found, DenotesWidth (trim (decimal field.bits.toNat)) found := by
    rw [trim_of_clean width.clean]
    exact ⟨field.bits, width⟩
  simp [rules, name, typeName, bits, read, not_blank_of_clean clean.name,
    not_blank_of_clean clean.typeName, not_blank_of_clean width.clean]

theorem Field.describedBy_toNode {field : Field} (clean : field.Clean) :
    describedBy field.toNode = field := by
  have width := denotesWidth_bits clean
  obtain ⟨name, typeName, bits⟩ := field.valueOf_toNode
  rw [describedBy, name, typeName, bits, trim_of_clean clean.name, trim_of_clean clean.typeName,
    trim_of_clean width.clean, widthOfLiteral?_eq_some_iff.mpr width, Option.getD_some]

theorem ByteOrder.clean_token (order : ByteOrder) : Text.Clean order.token := by
  have solid : order.token.toList.all (!isBlank ·) = true := by cases order <;> decide
  apply clean_of_solid
  · cases order <;> decide
  · simpa using solid

theorem Layout.lookup_toNode (layout : Layout) :
    layout.toNode.textOf "name" = layout.name ∧
      layout.toNode.textOf "byte_order" = layout.byteOrder.token ∧
      fieldNodes layout.toNode = layout.fields.map Field.toNode := by
  have all : ∀ node ∈ layout.fields.map Field.toNode, node.isNamed "field" = true := by
    intro node member
    obtain ⟨field, _, rfl⟩ := List.mem_map.mp member
    rfl
  simp [toNode, textOf, first, fieldNodes, elements_plain all]

theorem Layout.rules_toNode {layout : Layout} (name : Text.Clean layout.name)
    (fields : ∀ field ∈ layout.fields, field.Clean) :
    ∀ rule ∈ rules layout.toNode, rule.holds = true := by
  obtain ⟨named, ordered, listed⟩ := layout.lookup_toNode
  have token : layout.byteOrder.token ∈ ["big_endian", "little_endian", "as_host"] := by
    cases layout.byteOrder <;> decide
  refine forall_mem_rules.mpr ⟨?_, ?_, ?_⟩
  · simp [named, not_blank_of_clean name]
  · simp only [ByteOrder.rule, ordered, trim_of_clean layout.byteOrder.clean_token, token, or_true,
      decide_true]
  · rw [listed]
    intro node among
    obtain ⟨field, member, rfl⟩ := List.mem_map.mp among
    exact Field.rules_toNode (fields field member)

theorem Layout.describedBy_toNode {layout : Layout} (name : Text.Clean layout.name)
    (fields : ∀ field ∈ layout.fields, field.Clean) :
    describedBy layout.toNode = layout := by
  obtain ⟨named, ordered, listed⟩ := layout.lookup_toNode
  have order : ByteOrder.describedBy layout.toNode = layout.byteOrder := by
    rw [ByteOrder.describedBy, ordered, trim_of_clean layout.byteOrder.clean_token,
      ByteOrder.ofToken?_eq_some_iff.mpr rfl, Option.getD_some]
  have each : layout.fields.map (Field.describedBy ∘ Field.toNode) = layout.fields := by
    conv_rhs => rw [← List.map_id layout.fields]
    apply List.map_congr_left
    intro field member
    exact Field.describedBy_toNode (fields field member)
  rw [describedBy, named, order, listed, List.map_map, each, trim_of_clean name]

theorem Header.textOf_toNode (header : Header) :
    header.toNode.textOf "name" = header.name ∧
      header.toNode.textOf "id_field_name" = header.idFieldName := by
  simp [toNode, textOf, first]

theorem EnumValue.lookup_toNode (numeral : IdNumeral) (value : EnumValue) :
    (value.toNode numeral).valueOf "id" = numeral.write value.id ∧
      (value.toNode numeral).ownText = value.name := by
  constructor
  · simp [toNode, valueOf_plain]
  · exact ownText_leaf "value" value.name

theorem EnumValue.rules_toNode (numeral : IdNumeral) {value : EnumValue}
    (clean : Text.Clean value.name) :
    ∀ rule ∈ rules (value.toNode numeral), rule.holds = true := by
  have denoted := numeral.denotes value.id
  obtain ⟨id, name⟩ := value.lookup_toNode numeral
  have read : ∃ found, DenotesId (trim (numeral.write value.id)) found := by
    rw [trim_of_clean denoted.clean]
    exact ⟨value.id, denoted⟩
  simp [rules, id, name, read, not_blank_of_clean denoted.clean, not_blank_of_clean clean]

theorem EnumValue.describedBy_toNode (numeral : IdNumeral) {value : EnumValue}
    (clean : Text.Clean value.name) : describedBy (value.toNode numeral) = value := by
  have denoted := numeral.denotes value.id
  obtain ⟨id, name⟩ := value.lookup_toNode numeral
  have read : idOfLiteral? (numeral.write value.id) = some value.id := by
    rw [idOfLiteral?_eq_some_iff, trim_of_clean denoted.clean]
    exact denoted
  rw [describedBy, id, name, read, trim_of_clean clean, Option.getD_some]

theorem Enumeration.lookup_toNode (numerals : Nat → IdNumeral) (enumeration : Enumeration) :
    (enumeration.toNode numerals).textOf "name" = enumeration.name ∧
      valueNodes (enumeration.toNode numerals) =
        enumeration.values.mapIdx fun i value => value.toNode (numerals i) := by
  have all : ∀ node ∈ enumeration.values.mapIdx fun i value => value.toNode (numerals i),
      node.isNamed "value" = true := by
    intro node member
    obtain ⟨i, bound, rfl⟩ := List.mem_mapIdx.mp member
    rfl
  simp [toNode, textOf, first, valueNodes, elements_plain all]

theorem Enumeration.rules_toNode (numerals : Nat → IdNumeral) {enumeration : Enumeration}
    (clean : enumeration.Clean) :
    ∀ rule ∈ rules (enumeration.toNode numerals), rule.holds = true := by
  obtain ⟨named, listed⟩ := enumeration.lookup_toNode numerals
  refine forall_mem_rules.mpr ⟨?_, ?_⟩
  · simp [nameRule, named, not_blank_of_clean clean.name]
  · rw [listed]
    intro node among
    obtain ⟨i, bound, rfl⟩ := List.mem_mapIdx.mp among
    exact EnumValue.rules_toNode _ (clean.values _ (List.getElem_mem bound))

theorem Enumeration.describedBy_toNode (numerals : Nat → IdNumeral) {enumeration : Enumeration}
    (clean : enumeration.Clean) : describedBy (enumeration.toNode numerals) = enumeration := by
  obtain ⟨named, listed⟩ := enumeration.lookup_toNode numerals
  have each : (enumeration.values.mapIdx fun i value => value.toNode (numerals i)).map
      EnumValue.describedBy = enumeration.values := by
    apply List.ext_getElem
    · simp
    · intro i _ bound
      rw [List.getElem_map, List.getElem_mapIdx]
      exact EnumValue.describedBy_toNode _ (clean.values _ (List.getElem_mem bound))
  rw [describedBy, named, listed, each, trim_of_clean clean.name]

namespace Definition

theorem lookup_toNode (numerals : Nat → IdNumeral) (d : Definition) :
    (d.toNode numerals).textOf "protocolname" = d.protocol.name ∧
      (d.toNode numerals).textOf "protocolshort" = d.protocol.shortName ∧
      (d.toNode numerals).child? "structure" = some d.layout.toNode ∧
      (d.toNode numerals).child? "header" = some d.header.toNode ∧
      (d.toNode numerals).child? "enum" = d.enumeration?.map (·.toNode numerals) := by
  refine ⟨?_, ?_, ?_, ?_, ?_⟩
  · simp [toNode, textOf, first]
  · simp [toNode, textOf, first]
  · simp [toNode, Layout.toNode]
  · simp [toNode, Layout.toNode, Header.toNode]
  · unfold toNode
    cases d.enumeration? with
    | none => simp [Layout.toNode, Header.toNode]
    | some enumeration => simp [Layout.toNode, Header.toNode, Enumeration.toNode]

theorem first_toNode (numerals : Nat → IdNumeral) (d : Definition) :
    (d.toNode numerals).first "structure" = d.layout.toNode ∧
      (d.toNode numerals).first "header" = d.header.toNode := by
  obtain ⟨_, _, layout, header, _⟩ := d.lookup_toNode numerals
  rw [first, first, layout, header]
  exact ⟨rfl, rfl⟩

theorem rules_toNode (numerals : Nat → IdNumeral) {d : Definition} (clean : d.Clean) :
    ∀ rule ∈ rules (d.toNode numerals), rule.holds = true := by
  obtain ⟨name, _, layout, header, enumeration⟩ := d.lookup_toNode numerals
  obtain ⟨layoutNode, headerNode⟩ := d.first_toNode numerals
  obtain ⟨headerName, idFieldName⟩ := d.header.textOf_toNode
  refine forall_mem_rules.mpr ⟨?_, ?_, ?_, ?_, ?_⟩
  · have root : (d.toNode numerals).localName = "protocol" := rfl
    simp [shapeRules, sectionRule, root, layout, header]
  · simp [Protocol.nameRule, name, not_blank_of_clean clean.protocolName]
  · rw [layoutNode]
    exact Layout.rules_toNode clean.layoutName clean.fields
  · rw [headerNode]
    simp [Header.rules, headerName, idFieldName, not_blank_of_clean clean.headerName,
      not_blank_of_clean clean.idFieldName]
  · rw [enumeration]
    intro node made
    obtain ⟨e, found, rfl⟩ := Option.map_eq_some_iff.mp made
    exact Enumeration.rules_toNode numerals (clean.enumeration e found)

theorem describedBy_toNode (numerals : Nat → IdNumeral) {d : Definition} (clean : d.Clean) :
    describedBy (d.toNode numerals) = d := by
  obtain ⟨name, shortName, _, _, enumeration⟩ := d.lookup_toNode numerals
  obtain ⟨layoutNode, headerNode⟩ := d.first_toNode numerals
  obtain ⟨headerName, idFieldName⟩ := d.header.textOf_toNode
  have protocol : Protocol.describedBy (d.toNode numerals) = d.protocol := by
    rw [Protocol.describedBy, name, shortName, if_neg (not_blank_of_clean clean.shortName),
      trim_of_clean clean.protocolName, trim_of_clean clean.shortName]
  have header : Header.describedBy d.header.toNode = d.header := by
    rw [Header.describedBy, headerName, idFieldName, trim_of_clean clean.headerName,
      trim_of_clean clean.idFieldName]
  have last : (d.enumeration?.map (·.toNode numerals)).map Enumeration.describedBy =
      d.enumeration? := by
    rw [Option.map_map]
    conv_rhs => rw [← Option.map_id' (x := d.enumeration?)]
    apply Option.map_congr
    intro e found
    exact Enumeration.describedBy_toNode numerals (clean.enumeration e found)
  rw [describedBy, layoutNode, headerNode, enumeration, protocol, header, last,
    Layout.describedBy_toNode clean.layoutName clean.fields]

end Definition

end WireSchema
