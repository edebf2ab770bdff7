import WireSchema.Xml.Builder
import WireSchema.Xml.LineEnds
import WireSchema.Xml.Reference
import WireSchema.Xml.Token.Content

/-!
Building a tree from tokens, with the references in text and attribute values resolved. The value of
an entity is read again wherever the entity is used. A part of the document is known by the number
of levels of entities that may still be entered from it.
-/
namespace WireSchema.Xml

/-- How deep entities may be used inside entities. -/
def depthLimit : Nat := 10

/-- How many entities may be used below one outermost use. -/
def referenceLimit : Nat := 255

/-- Whether a part from which `levels` more may be entered is the value of an entity. -/
def isInside (levels : Nat) : Bool := levels < depthLimit

namespace Build

def declareEntity (name : String) (value : Cursor) : Build Unit :=
  modify fun b => { b with entities := b.entities ++ [(name, value)] }

def entityValue (name : String) (place : Position) : Build Cursor := do
  match (← get).entities.find? (·.1 == name) with
  | none => throw (.unknownEntity name place)
  | some (_, value) => return value

def countReference (levels : Nat) (after : Position) : Build Unit := do
  if isInside levels then
    if (← get).references ≥ referenceLimit then throw (.entityLoop after)
    modify fun b => { b with references := b.references + 1 }

def leaveEntity (levels : Nat) : Build Unit :=
  modify fun b => if isInside levels then b else { b with references := 0 }

/-- A piece of an attribute value. A character reference in the document itself is kept as it is;
inside an entity it may not give a `<`. -/
def attributePiece (levels : Nat) (expand : Position → Cursor → Build (List Char)) :
    Piece → Build (List Char)
  | .plain c following => return attributeCharacter c following
  | .character c place _ => do
    if !isInside levels then return [c]
    if c = '<' then throw (.lessThanInAttribute place)
    return attributeCharacter c none
  | .entity name place after => do
    let value ← entityValue name place
    countReference levels after
    let content ← expand after value
    leaveEntity levels
    return content

def attributeText : (levels : Nat) → Cursor → Build (List Char)
  | 0, value => attributeTextWith 0 (fun after _ => throw (.entityLoop after)) value
  | levels + 1, value =>
    attributeTextWith (levels + 1) (fun _ inner => attributeText levels inner) value
where
  attributeTextWith (levels : Nat) (expand : Position → Cursor → Build (List Char))
      (value : Cursor) : Build (List Char) := do
    let found := pieces value
    let parts ← found.entries.mapM (attributePiece levels expand)
    let _ ← ofExcept found.result
    return parts.flatten

def flush (reversed : List Char) : Build Unit := do
  if !reversed.isEmpty then modify (·.addText (String.ofList reversed.reverse))

/-- Goes through the pieces of a text and returns what is collected of it after the last entity, in
reverse order. The plain character after a character reference is kept as it is. -/
def textPieces (levels : Nat) (expand : Position → Cursor → Build Unit) :
    List Piece → (reversed : List Char) → (verbatim : Bool) → Build (List Char)
  | [], reversed, _ => return reversed
  | .plain c following :: rest, reversed, verbatim =>
    let pushed := if verbatim then c :: reversed else pushText reversed c following.isNone
    textPieces levels expand rest pushed false
  | .character c _ following :: rest, reversed, _ =>
    if isInside levels then
      textPieces levels expand rest (pushText reversed c following.isNone) false
    else textPieces levels expand rest (c :: reversed) true
  | .entity name place after :: rest, reversed, _ => do
    let value ← entityValue name place
    flush reversed
    countReference levels after
    expand after value
    leaveEntity levels
    textPieces levels expand rest [] false

def text (levels : Nat) (expand : Position → Cursor → Build Unit) (value : Cursor) :
    Build Unit := do
  let found := pieces value
  let reversed ← textPieces levels expand found.entries [] false
  let _ ← ofExcept found.result
  flush reversed

/-- Builds on by one token; `expand` reads the value of an entity as content. -/
def token (levels : Nat) (expand : Position → Cursor → Build Unit) : Token → Build Unit
  | .comment content => addAside (.comment content)
  | .instruction target content => addAside (.instruction target content)
  | .entity name value => declareEntity name value
  | .openTag name place => openTag name place
  | .attribute name value place => do
    addAttribute ⟨name, String.ofList (← attributeText levels value), place⟩
  | .tagEnd childless => tagEnd childless
  | .closeTag name place => closeTag name place
  | .text value => text levels expand value
  | .characterData content =>
    modify (·.addText (String.ofList (withLineFeeds content)))

def tokens {α : Type} (step : Token → Build Unit) (found : Journal Token Error α) : Build Unit := do
  found.entries.forM step
  let _ ← ofExcept found.result

/-- The value of an entity as content. No start tag outside it is known inside. -/
def entityContent : (levels : Nat) → (after : Position) → Cursor → Build Unit
  | 0, after, _ => throw (.entityLoop after)
  | levels + 1, _, value => do
    let latest? := (← get).latest?
    modify fun b => { b with latest? := none }
    tokens (token levels (entityContent levels)) (contentTokens value)
    modify fun b => { b with latest? := latest? }

def document (found : Journal Token Error Unit) : Build Unit :=
  tokens (token depthLimit (entityContent depthLimit)) found

end Build

end WireSchema.Xml
