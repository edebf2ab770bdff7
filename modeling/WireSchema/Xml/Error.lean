import WireSchema.Text.Quoted
import WireSchema.Xml.Position

/-!
Reasons to refuse a text as XML, each with the place it concerns, and their messages. A character
found in the place of another is named by the first byte of its UTF-8 form.
-/
namespace WireSchema.Xml
open Text

inductive Error
  | doctypeNotAllowed
  | nodesLimitReached
  | noRoot
  | unclosedRoot
  | unexpectedEnd
  | unknownToken (place : Position)
  | unexpectedDeclaration (place : Position)
  | invalidName (place : Position)
  | invalidCharacter (found : Char) (place : Position)
  | expectedCharacter (wanted found : Char) (place : Position)
  | expectedOneOf (wanted : String) (found : Char) (place : Position)
  | expectedText (wanted : String) (place : Position)
  | invalidComment (place : Position)
  | invalidCharacterData (place : Position)
  | invalidExternalId (place : Position)
  | mismatchedClose (wanted found : String) (place : Position)
  | closeInEntity (place : Position)
  | malformedReference (place : Position)
  | unknownEntity (name : String) (place : Position)
  | entityLoop (place : Position)
  | lessThanInAttribute (place : Position)
  | duplicateAttribute (name : String) (place : Position)
  | duplicatePrefix (name : String) (place : Position)
  | unknownPrefix (name : String) (place : Position)
  | reservedElementPrefix (place : Position)
  | wrongXmlUri (place : Position)
  | reservedXmlUri (place : Position)
  | reservedXmlnsUri (place : Position)
  deriving DecidableEq, Repr

/-- The first byte of the character's UTF-8 form, as the character with that code point. -/
def leadByte (c : Char) : Char :=
  Char.ofNat (match (String.singleton c).toUTF8.toList with
    | [] => 0
    | byte :: _ => byte.toNat)

namespace Error

/-- The place that the message names; the start of the text where it names none. -/
def position : Error → Position
  | doctypeNotAllowed | nodesLimitReached | noRoot | unclosedRoot | unexpectedEnd => .start
  | unknownToken place | unexpectedDeclaration place | invalidName place
  | invalidCharacter _ place | expectedCharacter _ _ place | expectedOneOf _ _ place
  | expectedText _ place | invalidComment place | invalidCharacterData place
  | invalidExternalId place | mismatchedClose _ _ place | closeInEntity place
  | malformedReference place | unknownEntity _ place | entityLoop place
  | lessThanInAttribute place | duplicateAttribute _ place | duplicatePrefix _ place
  | unknownPrefix _ place | reservedElementPrefix place | wrongXmlUri place
  | reservedXmlUri place | reservedXmlnsUri place => place

def message : Error → String
  | doctypeNotAllowed => "XML with DTD detected"
  | nodesLimitReached => "nodes limit reached"
  | noRoot => "the document does not have a root node"
  | unclosedRoot => "the root node was opened but never closed"
  | unexpectedEnd => "unexpected end of stream"
  | unknownToken p => s!"unknown token at {p.toText}"
  | unexpectedDeclaration p => s!"unexpected XML declaration at {p.toText}"
  | invalidName p => s!"invalid name token at {p.toText}"
  | invalidCharacter found p => s!"a non-XML character {quoteChar found} found at {p.toText}"
  | expectedCharacter wanted found p =>
    s!"expected '{wanted}' not '{leadByte found}' at {p.toText}"
  | expectedOneOf wanted found p => s!"expected {wanted} not '{leadByte found}' at {p.toText}"
  | expectedText wanted p => s!"expected '{wanted}' at {p.toText}"
  | invalidComment p => s!"comment at {p.toText} contains '--'"
  | invalidCharacterData p => s!"']]>' at {p.toText} is not allowed inside a character data"
  | invalidExternalId p => s!"invalid ExternalID at {p.toText}"
  | mismatchedClose wanted found p => s!"expected '{wanted}' tag, not '{found}' at {p.toText}"
  | closeInEntity p => s!"unexpected close tag at {p.toText}"
  | malformedReference p => s!"malformed entity reference at {p.toText}"
  | unknownEntity name p => s!"unknown entity reference '{name}' at {p.toText}"
  | entityLoop p => s!"a possible entity reference loop is detected at {p.toText}"
  | lessThanInAttribute p => s!"unescaped '<' found at {p.toText}"
  | duplicateAttribute name p => s!"attribute '{name}' at {p.toText} is already defined"
  | duplicatePrefix name p => s!"namespace '{name}' at {p.toText} is already defined"
  | unknownPrefix name p => s!"an unknown namespace prefix '{name}' at {p.toText}"
  | reservedElementPrefix p => s!"the 'xmlns' prefix is used at {p.toText}, but it must not be"
  | wrongXmlUri p => s!"'xml' namespace prefix mapped to wrong URI at {p.toText}"
  | reservedXmlUri p =>
    s!"the 'xml' namespace URI is used for not 'xml' prefix at {p.toText}"
  | reservedXmlnsUri p =>
    s!"the 'xmlns' URI is used at {p.toText}, but it must not be declared"

end Error

end WireSchema.Xml
