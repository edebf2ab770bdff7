import WireSchema.Definition.OfNode

/-!
Edits of a definition. Each operation changes one part; an edit is one of them with its arguments.
-/
namespace WireSchema
namespace Definition

def withFields (d : Definition) (fields : List Field) : Definition :=
  { d with layout := { d.layout with fields := fields } }

def pushField (d : Definition) (field : Field) : Definition :=
  d.withFields (d.layout.fields ++ [field])

/-- Inserts a field before an index, or at the end if there is no such index. -/
def insertField (d : Definition) (index : Nat) (field : Field) : Definition :=
  d.withFields (d.layout.fields.take index ++ field :: d.layout.fields.drop index)

def popField (d : Definition) : Definition := d.withFields d.layout.fields.dropLast

def setIdField (d : Definition) (name : String) : Definition :=
  { d with header := { d.header with idFieldName := name } }

def withByteOrder (d : Definition) (order : ByteOrder) : Definition :=
  { d with layout := { d.layout with byteOrder := order } }

/-- Sets the byte order with the token, if there is one. -/
def setByteOrder (d : Definition) (token : String) : Except ValueError Definition :=
  (ByteOrder.ofText token).map d.withByteOrder

def setEnumeration (d : Definition) (enumeration? : Option Enumeration) : Definition :=
  { d with enumeration? := enumeration? }

def pushValue (d : Definition) (value : EnumValue) : Definition :=
  { d with enumeration? := d.enumeration?.map fun e => { e with values := e.values ++ [value] } }

def label? (d : Definition) (id : UInt64) : Option String := d.enumeration?.bind (·.label? id)

end Definition

inductive Edit
  | pushField (field : Field)
  | insertField (index : Nat) (field : Field)
  | popField
  | setIdField (name : String)
  | setByteOrder (token : String)
  | resetByteOrder
  | setEnumeration (enumeration? : Option Enumeration)
  | pushValue (value : EnumValue)
  deriving DecidableEq, Repr

/-- The definition after an edit. An edit that fails changes nothing. -/
def Edit.apply (d : Definition) : Edit → Definition
  | pushField field => d.pushField field
  | insertField index field => d.insertField index field
  | popField => d.popField
  | setIdField name => d.setIdField name
  | setByteOrder token => (d.setByteOrder token).toOption.getD d
  | resetByteOrder => d.withByteOrder .standard
  | setEnumeration enumeration? => d.setEnumeration enumeration?
  | pushValue value => d.pushValue value

def Edit.applyAll (d : Definition) (edits : List Edit) : Definition := edits.foldl Edit.apply d

end WireSchema
