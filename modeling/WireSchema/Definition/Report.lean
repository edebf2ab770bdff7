import WireSchema.Definition.Basic
import WireSchema.Text.Numeral
import WireSchema.Text.Quoted

/-!
The report on a definition: one line each for the protocol, the layout, every field with its offset,
the header with its id field, the enumeration and every value of it.
-/
namespace WireSchema
open Text

/-- The text with spaces after it up to a width. -/
def padded (width : Nat) (s : String) : String :=
  s ++ String.ofList (List.replicate (width - s.length) ' ')

namespace Field

def report (field : Field) (offset : UInt64) : String :=
  "@" ++ padded 4 (decimal offset.toNat) ++ " " ++ field.name ++ ": " ++ field.typeName ++ " (" ++
    decimal field.bits.toNat ++ " bits)"

end Field

namespace EnumValue

def report (value : EnumValue) : String :=
  hexadecimal value.id.toNat ++ " (" ++ decimal value.id.toNat ++ ") = " ++ value.name

end EnumValue

namespace Enumeration

def headline (enumeration : Enumeration) : String :=
  "  enum " ++ enumeration.name ++ " " ++ decimal enumeration.values.length ++ " value(s)"

def reportLines (enumeration : Enumeration) : List String :=
  enumeration.headline :: enumeration.values.map fun value => "    " ++ value.report

end Enumeration

/-- Lines as a text; each ends in a line feed. -/
def unlines (lines : List String) : String := String.join (lines.map (· ++ "\n"))

def Enumeration.report (enumeration : Enumeration) : String := unlines enumeration.reportLines

namespace Definition

def protocolLine (d : Definition) : String :=
  "protocol " ++ quote d.protocol.name ++ " (short " ++ quote d.protocol.shortName ++ ")"

def layoutLine (d : Definition) : String :=
  "  structure " ++ d.layout.name ++ " [" ++ d.layout.byteOrder.token ++ "] " ++
    decimal d.layout.fields.length ++ " field(s), " ++ decimal d.layout.totalBits.toNat ++ " bit(s)"

def fieldLines (d : Definition) : List String :=
  d.layout.placed.map fun (offset, field) => "    " ++ field.report offset

/-- The id field with type and width, or its name where the layout has no such field. -/
def idFieldText (d : Definition) : String :=
  match d.idField? with
  | some field =>
    field.name ++ " (" ++ field.typeName ++ ", " ++ decimal field.bits.toNat ++ " bits)"
  | none => d.header.idFieldName ++ " (not a structure field)"

def headerLine (d : Definition) : String := "  header " ++ d.header.name ++ " id=" ++ d.idFieldText

def enumerationLines (d : Definition) : List String :=
  d.enumeration?.elim ["  enum: none"] Enumeration.reportLines

def reportLines (d : Definition) : List String :=
  [d.protocolLine, d.layoutLine] ++ d.fieldLines ++ [d.headerLine] ++ d.enumerationLines

def report (d : Definition) : String := unlines d.reportLines

end Definition

end WireSchema
