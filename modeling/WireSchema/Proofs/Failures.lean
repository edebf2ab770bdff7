import WireSchema.Proofs.Reading

/-!
The errors in which reading a tree may end. Elements and attributes are named from a fixed set; what
else an error holds is the name of the root, a literal or the name of a field.
-/
namespace WireSchema
open Text Xml

inductive ParseError.OfReading (root : Node) : ParseError → Prop
  | unexpectedRoot : OfReading root (.structural (.unexpectedRoot root.localName))
  | missingSection {name : String} (listed : name ∈ ["structure", "header"]) :
    OfReading root (.structural (.missingSection name))
  | missingElement {parent child : String}
    (listed : (parent, child) ∈
      [("structure", "name"), ("header", "name"), ("header", "id_field_name")]) :
    OfReading root (.structural (.missingElement parent child))
  | missingProtocolName : OfReading root (.value .missingProtocolName)
  | unknownByteOrder (literal : String) : OfReading root (.value (.unknownByteOrder literal))
  | invalidEnumId (literal : String) : OfReading root (.value (.invalidEnumId literal))
  | invalidBits (field literal : String) : OfReading root (.value (.invalidBits field literal))
  | missingAttribute {element name : String}
    (listed : (element, name) ∈
      [("field", "name"), ("field", "type"), ("field", "bits"), ("value", "id")]) :
    OfReading root (.value (.missingAttribute element name))
  | missingText {element : String} (listed : element ∈ ["name", "value"]) :
    OfReading root (.value (.missingText element))

namespace Definition

variable {root : Node}

theorem ofReading_of_field (node : Node) : ∀ rule ∈ Field.rules node, rule.failure.OfReading root := by
  simp only [Field.rules, List.forall_mem_cons]
  exact ⟨.missingAttribute (by decide), .missingAttribute (by decide), .missingAttribute (by decide),
    .invalidBits _ _, by simp⟩

theorem ofReading_of_value (node : Node) :
    ∀ rule ∈ EnumValue.rules node, rule.failure.OfReading root := by
  simp only [EnumValue.rules, List.forall_mem_cons]
  exact ⟨.missingAttribute (by decide), .invalidEnumId _, .missingText (by decide), by simp⟩

theorem ofReading_of_layout (node : Node) :
    ∀ rule ∈ Layout.rules node, rule.failure.OfReading root :=
  Layout.forall_mem_rules.mpr
    ⟨.missingElement (by decide), .unknownByteOrder _, fun field _ => ofReading_of_field field⟩

theorem ofReading_of_enumeration (node : Node) :
    ∀ rule ∈ Enumeration.rules node, rule.failure.OfReading root :=
  Enumeration.forall_mem_rules.mpr
    ⟨.missingText (by decide), fun value _ => ofReading_of_value value⟩

theorem ofReading_of_rules : ∀ rule ∈ rules root, rule.failure.OfReading root := by
  simp only [forall_mem_rules, shapeRules, Header.rules, List.forall_mem_cons]
  exact ⟨⟨.unexpectedRoot, .missingSection (by decide), .missingSection (by decide), by simp⟩,
    .missingProtocolName, ofReading_of_layout _,
    ⟨.missingElement (by decide), .missingElement (by decide), by simp⟩,
    fun node _ => ofReading_of_enumeration node⟩

theorem ofReading_of_ofNode {e : ParseError} (failed : (Definition.ofNode root).result = .error e) :
    e.OfReading root := by
  obtain ⟨before, rule, after, split, _, _, rfl⟩ := ((ofNode_result_iff_rules root).2 e).mp failed
  exact ofReading_of_rules rule (by simp [split])

end Definition

end WireSchema
