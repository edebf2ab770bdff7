import WireSchema.Definition.Event
import WireSchema.Definition.Literal
import WireSchema.Definition.ShortName
import WireSchema.Xml.Node

/-!
Reading a definition from a tree. Elements are found by local name, in any namespace, and only the
first of a name counts; attributes are found by name without a namespace. Text and attribute values
are trimmed, and count as missing when nothing is left of them. The first part that fails ends the
reading.
-/
namespace WireSchema
open Text Xml

namespace Xml.Node

/-- The direct text of the node without the blanks around it, if there is any. -/
def trimmedText? (node : Node) : Option String := trimmed? node.ownText

def childText? (node : Node) (name : String) : Option String :=
  (node.child? name).bind trimmedText?

/-- The elements of a name inside the first child of another name. -/
def listed (node : Node) (list item : String) : List Node :=
  (node.child? list).elim [] (·.elements item)

end Xml.Node

namespace Traced
variable {α : Type}

def structural (e : StructuralError) (found? : Option α) : Traced α :=
  .require (.structural e) found?

def value (e : ValueError) (found? : Option α) : Traced α := .require (.value e) found?

end Traced

def sectionOf (root : Node) (name : String) : Traced Node :=
  .structural (.missingSection name) (root.child? name)

/-- The text of a child that a section must have. -/
def requiredText (node : Node) (parent child : String) : Traced String :=
  .structural (.missingElement parent child) (node.childText? child)

/-- The value of an attribute that an element must have. -/
def requiredAttribute (node : Node) (element name : String) : Traced String :=
  .value (.missingAttribute element name) ((node.attribute? name).bind trimmed?)

def ByteOrder.ofText (s : String) : Except ValueError ByteOrder :=
  match ofToken? s with
  | none => .error (.unknownByteOrder s)
  | some order => .ok order

def idLiteral (literal : String) : Except ValueError UInt64 :=
  match idOfLiteral? literal with
  | none => .error (.invalidEnumId literal)
  | some id => .ok id

/-- The names of the protocol; the short name is made from the name if none is given. -/
def Protocol.ofNode (root : Node) : Traced Protocol := do
  let name ← Traced.value .missingProtocolName (root.childText? "protocolname")
  match root.childText? "protocolshort" with
  | some shortName => return ⟨name, shortName⟩
  | none =>
    let protocol : Protocol := ⟨name, shortNameOf name⟩
    .record [.derivedShortName protocol]
    return protocol

/-- The byte order that the structure section declares, or the standard one. -/
def ByteOrder.ofNode (root : Node) : Traced ByteOrder :=
  match (root.child? "structure").bind (·.childText? "byte_order") with
  | none => return .standard
  | some token => .lift ((ByteOrder.ofText token).mapError .value)

def Field.ofNode (node : Node) : Traced Field := do
  let name ← requiredAttribute node "field" "name"
  let typeName ← requiredAttribute node "field" "type"
  let literal ← requiredAttribute node "field" "bits"
  let bits ← Traced.value (.invalidBits name literal) (widthOfLiteral? literal)
  return ⟨name, typeName, bits⟩

def Layout.ofNode (root : Node) : Traced Layout := do
  let node ← sectionOf root "structure"
  let name ← requiredText node "structure" "name"
  let byteOrder ← ByteOrder.ofNode root
  let fields ← (node.listed "fields" "field").mapM Field.ofNode
  let layout : Layout := ⟨name, byteOrder, fields⟩
  .record [.readLayout layout]
  return layout

def Header.ofNode (root : Node) : Traced Header := do
  let node ← sectionOf root "header"
  let name ← requiredText node "header" "name"
  let idFieldName ← requiredText node "header" "id_field_name"
  let header : Header := ⟨name, idFieldName⟩
  .record [.readHeader header]
  return header

def EnumValue.ofNode (node : Node) : Traced EnumValue := do
  let literal ← requiredAttribute node "value" "id"
  let id ← .lift ((idLiteral literal).mapError .value)
  let name ← Traced.value (.missingText "value") node.trimmedText?
  let value : EnumValue := ⟨id, name⟩
  .record [.readEnumValue value]
  return value

def Enumeration.ofNode (node : Node) : Traced Enumeration := do
  let name ← Traced.value (.missingText "name") (node.childText? "name")
  let values ← (node.listed "values" "value").mapM EnumValue.ofNode
  let enumeration : Enumeration := ⟨name, values⟩
  .record [.readEnumeration enumeration]
  return enumeration

/-- The definition in a protocol element. Its sections must be there before any of them is read. -/
def Definition.ofNode (root : Node) : Traced Definition := do
  if root.localName ≠ "protocol" then
    Journal.fail (.structural (.unexpectedRoot root.localName))
  let _ ← sectionOf root "structure"
  let _ ← sectionOf root "header"
  let protocol ← Protocol.ofNode root
  let layout ← Layout.ofNode root
  let header ← Header.ofNode root
  let enumeration? ←
    match root.child? "enum" with
    | none => pure none
    | some node => some <$> Enumeration.ofNode node
  let definition : Definition := ⟨protocol, layout, header, enumeration?⟩
  .record [.readDefinition definition]
  return definition

end WireSchema
