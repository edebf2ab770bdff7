import WireSchema.Definition.Basic
import WireSchema.Definition.Error
import WireSchema.Outline

/-!
Outlines of definitions and of the errors of reading one.
-/
namespace WireSchema

def ByteOrder.outline : ByteOrder → Outline
  | bigEndian => .constant "BigEndian"
  | littleEndian => .constant "LittleEndian"
  | asHost => .constant "AsHost"

def Field.outline (field : Field) : Outline :=
  .record "Field"
    [("name", .text field.name), ("ty", .text field.typeName), ("bits", .number field.bits.toNat)]

def Layout.outline (layout : Layout) : Outline :=
  .record "Structure"
    [("name", .text layout.name), ("byte_order", layout.byteOrder.outline),
      ("fields", .list (layout.fields.map Field.outline))]

def Header.outline (header : Header) : Outline :=
  .record "Header" [("name", .text header.name), ("id_field_name", .text header.idFieldName)]

def EnumValue.outline (value : EnumValue) : Outline :=
  .record "EnumValue" [("id", .number value.id.toNat), ("name", .text value.name)]

def Enumeration.outline (enumeration : Enumeration) : Outline :=
  .record "Enum"
    [("name", .text enumeration.name),
      ("values", .list (enumeration.values.map EnumValue.outline))]

def Protocol.outline (protocol : Protocol) : Outline :=
  .record "ProtocolInfo"
    [("proto_name", .text protocol.name), ("proto_short", .text protocol.shortName)]

def Definition.outline (d : Definition) : Outline :=
  .record "Document"
    [("proto", d.protocol.outline), ("structure", d.layout.outline), ("header", d.header.outline),
      ("enumeration",
        d.enumeration?.elim (.constant "None") fun e => .variant "Some" e.outline)]

def StructuralError.outline : StructuralError → Outline
  | xml row column message =>
    .record "Xml" [("row", .number row), ("col", .number column), ("message", .text message)]
  | inputTooLarge length limit =>
    .record "InputTooLarge" [("len", .number length), ("max", .number limit)]
  | unexpectedRoot name => .variant "UnexpectedRoot" (.text name)
  | missingSection name => .variant "MissingSection" (.text name)
  | missingElement parent child =>
    .record "MissingElement" [("parent", .text parent), ("child", .text child)]

def ValueError.outline : ValueError → Outline
  | missingProtocolName => .constant "MissingProtocolName"
  | unknownByteOrder literal => .variant "UnknownByteOrder" (.text literal)
  | invalidEnumId literal => .variant "InvalidEnumId" (.text literal)
  | invalidBits field literal =>
    .record "InvalidBits" [("field", .text field), ("literal", .text literal)]
  | missingAttribute element name =>
    .record "MissingAttribute" [("element", .text element), ("attribute", .text name)]
  | missingText element => .record "MissingText" [("element", .text element)]

def ParseError.outline : ParseError → Outline
  | structural e => .variant "Structural" e.outline
  | value e => .variant "Value" e.outline

/-- The outline of a result: a definition over several lines, an error on one. -/
def outlineText : Except ParseError Definition → String
  | .ok d => d.outline.spread
  | .error e => e.outline.compact

end WireSchema
