/-!
Definitions of wire protocols: a protocol with its names, the layout of its fixed part field by
field, the header that names the field with the message id, and an optional enumeration of ids.
-/
namespace WireSchema

inductive ByteOrder
  | bigEndian
  | littleEndian
  | asHost
  deriving DecidableEq, Repr

namespace ByteOrder

/-- The order of a layout that declares none. -/
def standard : ByteOrder := bigEndian

def token : ByteOrder → String
  | bigEndian => "big_endian"
  | littleEndian => "little_endian"
  | asHost => "as_host"

/-- The order with the token; nothing is trimmed and case counts. -/
def ofToken? (s : String) : Option ByteOrder :=
  [bigEndian, littleEndian, asHost].find? (·.token == s)

theorem ofToken?_eq_some_iff {s : String} {order : ByteOrder} :
    ofToken? s = some order ↔ s = order.token := by
  constructor
  · intro h
    have found := List.find?_some h
    exact (beq_iff_eq.mp found).symm
  · rintro rfl
    cases order <;> rfl

/-- Whether the most significant byte comes first, on a host of which the same is known. -/
def isBigEndian (order : ByteOrder) (hostIsBigEndian : Bool := false) : Bool :=
  match order with
  | bigEndian => true
  | littleEndian => false
  | asHost => hostIsBigEndian

end ByteOrder

@[ext] structure Field where
  name : String
  typeName : String
  bits : UInt32
  deriving DecidableEq, Repr

/-- The fields of the fixed part, in the order in which they lie on the wire. -/
@[ext] structure Layout where
  name : String
  byteOrder : ByteOrder
  fields : List Field
  deriving DecidableEq, Repr

namespace Layout

def field? (layout : Layout) (name : String) : Option Field :=
  layout.fields.find? (·.name == name)

/-- The width of fields in bits, from an offset on, in 64-bit words. -/
def widthFrom (offset : UInt64) (fields : List Field) : UInt64 :=
  fields.foldl (fun sum field => sum + field.bits.toUInt64) offset

def totalBits (layout : Layout) : UInt64 := widthFrom 0 layout.fields

/-- Fields with the offset of each, from an offset on. -/
def placedFrom (offset : UInt64) : List Field → List (UInt64 × Field)
  | [] => []
  | field :: fields => (offset, field) :: placedFrom (offset + field.bits.toUInt64) fields

/-- Every field with its offset: the fields lie one after another. -/
def placed (layout : Layout) : List (UInt64 × Field) := placedFrom 0 layout.fields

theorem widthFrom_cons (offset : UInt64) (field : Field) (fields : List Field) :
    widthFrom offset (field :: fields) = widthFrom (offset + field.bits.toUInt64) fields := rfl

theorem placedFrom_map_snd (offset : UInt64) (fields : List Field) :
    (placedFrom offset fields).map (·.2) = fields := by
  induction fields generalizing offset with
  | nil => rfl
  | cons field fields ih => simp [placedFrom, ih]

theorem placed_map_snd (layout : Layout) : layout.placed.map (·.2) = layout.fields :=
  placedFrom_map_snd 0 layout.fields

end Layout

@[ext] structure Header where
  name : String
  idFieldName : String
  deriving DecidableEq, Repr

@[ext] structure EnumValue where
  id : UInt64
  name : String
  deriving DecidableEq, Repr

@[ext] structure Enumeration where
  name : String
  values : List EnumValue
  deriving DecidableEq, Repr

def Enumeration.label? (enumeration : Enumeration) (id : UInt64) : Option String :=
  (enumeration.values.find? (·.id == id)).map (·.name)

@[ext] structure Protocol where
  name : String
  shortName : String
  deriving DecidableEq, Repr

@[ext] structure Definition where
  protocol : Protocol
  layout : Layout
  header : Header
  enumeration? : Option Enumeration
  deriving DecidableEq, Repr

/-- The field that holds the message id, if the layout has it. -/
def Definition.idField? (d : Definition) : Option Field := d.layout.field? d.header.idFieldName

end WireSchema
