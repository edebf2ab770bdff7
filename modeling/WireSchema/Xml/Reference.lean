import WireSchema.Text.Numeral
import WireSchema.Xml.NameReader
import WireSchema.Xml.Steps

/-!
References inside text and attribute values. A value is a sequence of pieces: characters as they
stand, characters given by a reference, and references to entities.
-/
namespace WireSchema.Xml
open Text

inductive Reference
  | character (c : Char)
  | entity (name : String)
  deriving DecidableEq, Repr

/-- A piece of a value, with the character that follows it in the text, if any. -/
inductive Piece
  | plain (c : Char) (following : Option Char)
  | character (c : Char) (place : Position) (following : Option Char)
  | entity (name : String) (place after : Position)
  deriving DecidableEq, Repr

/-- The character with a code point; code points that no character has give U+FFFD. -/
def characterOfCode (code : Nat) : Char :=
  if h : code.isValidChar then Char.ofNatAux code h else '\uFFFD'

def predefined? : String → Option Char
  | "quot" => some '"'
  | "amp" => some '&'
  | "apos" => some '\''
  | "lt" => some '<'
  | "gt" => some '>'
  | _ => none

namespace Scan

def characterCode (malformed : Error) : Scan Char := do
  let base ← if (← peek?) = some 'x' then do drop 1; pure 16 else pure 10
  match ofDigits? base (← takeWhile fun c => (digit? base c).isSome) with
  | none => fail malformed
  | some code =>
    let c := characterOfCode code
    if code < UInt32.size ∧ isXmlChar c then return c else fail malformed

def referenceAfter (start : Position) : Scan Reference := do
  let found ←
    match ← peek? with
    | none => fail (.malformedReference start)
    | some '#' => do
      drop 1
      Reference.character <$> characterCode (.malformedReference start)
    | some first =>
      if isNameStart first then do
        let name := String.ofList (← takeWhile isNameChar)
        pure ((predefined? name).elim (.entity name) .character)
      else fail (.malformedReference start)
  if (← peek?) = some ';' then
    drop 1
    return found
  else fail (.malformedReference start)

def referencePiece (start : Position) : Scan Piece := do
  let found ← referenceAfter start
  let c ← cursor
  return match found with
    | .character ch => .character ch start c.rest.head?
    | .entity name => .entity name start c.place

end Scan

private def pieceStep (_ : Unit) (c : Cursor) : Except Error (Step Piece Unit c) :=
  match h : c.rest with
  | [] => .ok (.stop c)
  | '&' :: _ =>
    Step.reading (Cursor.size_next_lt h) do return ([← Scan.referencePiece c.place], ())
  | first :: rest =>
    .ok (.more [.plain first rest.head?] () c.next (Cursor.size_next_lt h))

/-- The pieces of a value, up to its first malformed reference. -/
def pieces (value : Cursor) : Journal Piece Error Cursor := repeatSteps pieceStep () value

end WireSchema.Xml
