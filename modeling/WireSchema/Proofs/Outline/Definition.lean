import WireSchema.Definition.Outline
import WireSchema.Proofs.Outline

/-!
Outlines of definitions and of errors. Each shows every part of its value, so results of a reading that
have the same outline are the same, whatever texts are in them.
-/
namespace WireSchema
open Outline

theorem Outline.wellNamed_record {name : String} {fields : List (String × Outline)}
    (labels : ∀ label ∈ name :: fields.map (·.1), IsName label)
    (inside : ∀ part ∈ fields.map (·.2), part.WellNamed) : (record name fields).WellNamed := by
  obtain ⟨named, labels⟩ := List.forall_mem_cons.mp labels
  exact .record named (List.forall_mem_map.mp labels) (List.forall_mem_map.mp inside)

namespace ByteOrder

theorem wellNamed_outline (order : ByteOrder) : order.outline.WellNamed := by
  cases order <;> exact .constant (by decide)

theorem outline_inj {a b : ByteOrder} (same : a.outline = b.outline) : a = b := by
  cases a <;> cases b <;> simp_all [outline]

end ByteOrder

namespace Field

theorem wellNamed_outline (field : Field) : field.outline.WellNamed := by
  apply wellNamed_record
  · show ∀ label ∈ ["Field", "name", "ty", "bits"], IsName label
    decide
  · simp [WellNamed.text, WellNamed.number]

theorem outline_inj {f g : Field} (same : f.outline = g.outline) : f = g := by
  have parts : f.name = g.name ∧ f.typeName = g.typeName ∧ f.bits = g.bits := by
    simpa [outline, UInt32.toNat_inj] using same
  exact Field.ext parts.1 parts.2.1 parts.2.2

end Field

namespace Layout

theorem wellNamed_outline (layout : Layout) : layout.outline.WellNamed := by
  apply wellNamed_record
  · show ∀ label ∈ ["Structure", "name", "byte_order", "fields"], IsName label
    decide
  · have fields : (list (layout.fields.map Field.outline)).WellNamed :=
      .list (List.forall_mem_map.mpr fun field _ => field.wellNamed_outline)
    simp [WellNamed.text, layout.byteOrder.wellNamed_outline, fields]

theorem outline_inj {l m : Layout} (same : l.outline = m.outline) : l = m := by
  have parts : l.name = m.name ∧ l.byteOrder.outline = m.byteOrder.outline ∧
      l.fields.map Field.outline = m.fields.map Field.outline := by
    simpa [outline] using same
  apply Layout.ext parts.1
  · exact ByteOrder.outline_inj parts.2.1
  · exact (List.map_inj_right fun _ _ => Field.outline_inj).mp parts.2.2

end Layout

namespace Header

theorem wellNamed_outline (header : Header) : header.outline.WellNamed := by
  apply wellNamed_record
  · show ∀ label ∈ ["Header", "name", "id_field_name"], IsName label
    decide
  · simp [WellNamed.text]

theorem outline_inj {h i : Header} (same : h.outline = i.outline) : h = i := by
  have parts : h.name = i.name ∧ h.idFieldName = i.idFieldName := by simpa [outline] using same
  exact Header.ext parts.1 parts.2

end Header

namespace EnumValue

theorem wellNamed_outline (value : EnumValue) : value.outline.WellNamed := by
  apply wellNamed_record
  · show ∀ label ∈ ["EnumValue", "id", "name"], IsName label
    decide
  · simp [WellNamed.text, WellNamed.number]

theorem outline_inj {v w : EnumValue} (same : v.outline = w.outline) : v = w := by
  have parts : v.id = w.id ∧ v.name = w.name := by simpa [outline, UInt64.toNat_inj] using same
  exact EnumValue.ext parts.1 parts.2

end EnumValue

namespace Enumeration

theorem wellNamed_outline (enumeration : Enumeration) : enumeration.outline.WellNamed := by
  apply wellNamed_record
  · show ∀ label ∈ ["Enum", "name", "values"], IsName label
    decide
  · have values : (list (enumeration.values.map EnumValue.outline)).WellNamed :=
      .list (List.forall_mem_map.mpr fun value _ => value.wellNamed_outline)
    simp [WellNamed.text, values]

theorem outline_inj {e f : Enumeration} (same : e.outline = f.outline) : e = f := by
  have parts : e.name = f.name ∧ e.values.map EnumValue.outline = f.values.map EnumValue.outline := by
    simpa [outline] using same
  apply Enumeration.ext parts.1
  exact (List.map_inj_right fun _ _ => EnumValue.outline_inj).mp parts.2

end Enumeration

namespace Protocol

theorem wellNamed_outline (protocol : Protocol) : protocol.outline.WellNamed := by
  apply wellNamed_record
  · show ∀ label ∈ ["ProtocolInfo", "proto_name", "proto_short"], IsName label
    decide
  · simp [WellNamed.text]

theorem outline_inj {p q : Protocol} (same : p.outline = q.outline) : p = q := by
  have parts : p.name = q.name ∧ p.shortName = q.shortName := by simpa [outline] using same
  exact Protocol.ext parts.1 parts.2

end Protocol

/-- An enumeration that may be missing. -/
def optionalOutline (enumeration? : Option Enumeration) : Outline :=
  enumeration?.elim (.constant "None") fun e => .variant "Some" e.outline

namespace Definition

theorem wellNamed_outline (d : Definition) : d.outline.WellNamed := by
  apply wellNamed_record
  · show ∀ label ∈ ["Document", "proto", "structure", "header", "enumeration"], IsName label
    decide
  · have enumeration : (optionalOutline d.enumeration?).WellNamed := by
      cases d.enumeration? with
      | none => exact .constant (by decide)
      | some e => exact .variant (by decide) e.wellNamed_outline
    have parts := And.intro d.protocol.wellNamed_outline
      (And.intro d.layout.wellNamed_outline (And.intro d.header.wellNamed_outline enumeration))
    simpa [optionalOutline] using parts

theorem outline_inj {d e : Definition} (same : d.outline = e.outline) : d = e := by
  have parts : d.protocol.outline = e.protocol.outline ∧ d.layout.outline = e.layout.outline ∧
      d.header.outline = e.header.outline ∧
      optionalOutline d.enumeration? = optionalOutline e.enumeration? := by
    simpa [outline, optionalOutline] using same
  obtain ⟨protocols, layouts, headers, enumerations⟩ := parts
  have optional {a b : Option Enumeration} (same : optionalOutline a = optionalOutline b) : a = b := by
    cases a <;> cases b <;> simp [optionalOutline] at same ⊢
    exact Enumeration.outline_inj same
  exact Definition.ext (Protocol.outline_inj protocols) (Layout.outline_inj layouts)
    (Header.outline_inj headers) (optional enumerations)

end Definition

namespace StructuralError

theorem wellNamed_outline (e : StructuralError) : e.outline.WellNamed := by
  cases e with
  | xml row column message =>
    apply wellNamed_record
    · show ∀ label ∈ ["Xml", "row", "col", "message"], IsName label
      decide
    · simp [WellNamed.text, WellNamed.number]
  | inputTooLarge length limit =>
    apply wellNamed_record
    · show ∀ label ∈ ["InputTooLarge", "len", "max"], IsName label
      decide
    · simp [WellNamed.number]
  | unexpectedRoot name => exact .variant (by decide) (.text name)
  | missingSection name => exact .variant (by decide) (.text name)
  | missingElement parent child =>
    apply wellNamed_record
    · show ∀ label ∈ ["MissingElement", "parent", "child"], IsName label
      decide
    · simp [WellNamed.text]

theorem outline_inj {e f : StructuralError} (same : e.outline = f.outline) : e = f := by
  cases e <;> cases f <;> simp_all [outline]

end StructuralError

namespace ValueError

theorem wellNamed_outline (e : ValueError) : e.outline.WellNamed := by
  cases e with
  | missingProtocolName => exact .constant (by decide)
  | unknownByteOrder literal => exact .variant (by decide) (.text literal)
  | invalidEnumId literal => exact .variant (by decide) (.text literal)
  | invalidBits field literal =>
    apply wellNamed_record
    · show ∀ label ∈ ["InvalidBits", "field", "literal"], IsName label
      decide
    · simp [WellNamed.text]
  | missingAttribute element name =>
    apply wellNamed_record
    · show ∀ label ∈ ["MissingAttribute", "element", "attribute"], IsName label
      decide
    · simp [WellNamed.text]
  | missingText element =>
    apply wellNamed_record
    · show ∀ label ∈ ["MissingText", "element"], IsName label
      decide
    · simp [WellNamed.text]

theorem outline_inj {e f : ValueError} (same : e.outline = f.outline) : e = f := by
  cases e <;> cases f <;> simp_all [outline]

end ValueError

namespace ParseError

theorem wellNamed_outline (e : ParseError) : e.outline.WellNamed := by
  cases e with
  | structural e => exact .variant (by decide) e.wellNamed_outline
  | value e => exact .variant (by decide) e.wellNamed_outline

theorem outline_inj {e f : ParseError} (same : e.outline = f.outline) : e = f := by
  cases e with
  | structural e =>
    cases f with
    | structural f =>
      have parts : e.outline = f.outline := by simpa [outline] using same
      rw [StructuralError.outline_inj parts]
    | value f => simp [outline] at same
  | value e =>
    cases f with
    | structural f => simp [outline] at same
    | value f =>
      have parts : e.outline = f.outline := by simpa [outline] using same
      rw [ValueError.outline_inj parts]

end ParseError

/-- A definition is written as a record, an error as a variant. -/
theorem spread_ne_compact (d : Definition) (e : ParseError) : d.outline.spread ≠ e.outline.compact := by
  intro same
  have kinds := kind_eq_of_spread_eq_compact d.wellNamed_outline e.wellNamed_outline same
  cases e <;> cases kinds

/-- The outline of a result tells it: a definition from an error, and both from all others. -/
theorem outlineText_eq_iff {r s : Except ParseError Definition} :
    outlineText r = outlineText s ↔ r = s := by
  constructor
  · intro same
    cases r with
    | error e =>
      cases s with
      | error f =>
        have outlines := compact_inj e.wellNamed_outline f.wellNamed_outline same
        rw [ParseError.outline_inj outlines]
      | ok d => exact absurd same.symm (spread_ne_compact d e)
    | ok d =>
      cases s with
      | error e => exact absurd same (spread_ne_compact d e)
      | ok d' =>
        have outlines := spread_inj d.wellNamed_outline d'.wellNamed_outline same
        rw [Definition.outline_inj outlines]
  · rintro rfl
    rfl

end WireSchema
