import WireSchema.Text.Quoted

/-!
Reasons to refuse a text as a definition, and their messages. A structural error concerns the shape
of the document, a value error the content of a part that is there.
-/
namespace WireSchema
open Text

inductive StructuralError
  | xml (row column : Nat) (message : String)
  | inputTooLarge (length limit : Nat)
  | unexpectedRoot (name : String)
  | missingSection (name : String)
  | missingElement (parent child : String)
  deriving DecidableEq, Repr

inductive ValueError
  | missingProtocolName
  | unknownByteOrder (literal : String)
  | invalidEnumId (literal : String)
  | invalidBits (field literal : String)
  | missingAttribute (element name : String)
  | missingText (element : String)
  deriving DecidableEq, Repr

inductive ParseError
  | structural (e : StructuralError)
  | value (e : ValueError)
  deriving DecidableEq, Repr

namespace StructuralError

def message : StructuralError → String
  | xml row column message => s!"malformed XML at {row}:{column}: {message}"
  | inputTooLarge length limit => s!"input is {length} bytes, limit is {limit}"
  | unexpectedRoot name => s!"root element must be <protocol>, found <{name}>"
  | missingSection name => s!"missing <{name}> section"
  | missingElement parent child => s!"<{parent}> has no <{child}>"

end StructuralError

namespace ValueError

def message : ValueError → String
  | missingProtocolName => "protocol has no <protocolname>"
  | unknownByteOrder literal =>
    s!"unknown byte order {quote literal} (expected big_endian, little_endian or as_host)"
  | invalidEnumId literal =>
    s!"enum id {quote literal} is not a decimal or 0x-prefixed hexadecimal integer"
  | invalidBits field literal =>
    s!"field {quote field}: bits {quote literal} is not a positive integer"
  | missingAttribute element name => s!"<{element}> is missing attribute {quote name}"
  | missingText element => s!"<{element}> has no text"

end ValueError

namespace ParseError

def kind : ParseError → String
  | structural _ => "structural"
  | value _ => "value"

def message : ParseError → String
  | structural e => "structural error: " ++ e.message
  | value e => "value error: " ++ e.message

end ParseError

end WireSchema
