import WireSchema.Definition.Basic
import WireSchema.Definition.Error
import WireSchema.Journal

/-!
Events of reading a definition. Each says that a part has been read; a part that fails has none.
-/
namespace WireSchema

inductive Event
  | derivedShortName (protocol : Protocol)
  | readLayout (layout : Layout)
  | readHeader (header : Header)
  | readEnumValue (value : EnumValue)
  | readEnumeration (enumeration : Enumeration)
  | readDefinition (definition : Definition)
  deriving DecidableEq, Repr

namespace Event

inductive Level
  | debug
  | trace
  deriving DecidableEq, Repr

def level : Event → Level
  | readEnumValue _ => .trace
  | _ => .debug

def message : Event → String
  | derivedShortName _ => "derived protocol short name"
  | readLayout _ => "parsed structure"
  | readHeader _ => "parsed header"
  | readEnumValue _ => "enum value"
  | readEnumeration _ => "parsed enum"
  | readDefinition _ => "parsed protocol document"

/-- What the event tells beside its message, by name. -/
def details : Event → List (String × String)
  | derivedShortName p => [("proto_name", p.name), ("short", p.shortName)]
  | readLayout l =>
    [("name", l.name), ("byte_order", l.byteOrder.token), ("fields", toString l.fields.length)]
  | readHeader h => [("name", h.name), ("id_field_name", h.idFieldName)]
  | readEnumValue v => [("id", toString v.id), ("name", v.name)]
  | readEnumeration e => [("name", e.name), ("values", toString e.values.length)]
  | readDefinition d =>
    [("proto", d.protocol.name), ("fields", toString d.layout.fields.length),
      ("has_enum", toString d.enumeration?.isSome)]

end Event

/-- Reading that keeps its events, also when it fails. -/
abbrev Traced := Journal Event ParseError

end WireSchema
