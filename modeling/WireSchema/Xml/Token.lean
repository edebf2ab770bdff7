import WireSchema.Xml.Cursor
import WireSchema.Xml.Name

/-!
Tokens: the parts of a document in the order in which they stand. Values and text are kept as
written; references in them are resolved later.
-/
namespace WireSchema.Xml

inductive Token
  | comment (content : String)
  | instruction (target content : String)
  | entity (name : String) (value : Cursor)
  | openTag (name : QualifiedName) (place : Position)
  | attribute (name : QualifiedName) (value : Cursor) (place : Position)
  | tagEnd (childless : Bool)
  | closeTag (name : QualifiedName) (place : Position)
  | text (content : Cursor)
  | characterData (content : List Char)
  deriving DecidableEq, Repr

end WireSchema.Xml
