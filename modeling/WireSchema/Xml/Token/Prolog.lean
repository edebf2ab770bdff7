import WireSchema.Xml.Steps
import WireSchema.Xml.Token.Markup

/-!
The tokens outside the root element: comments and instructions, and the document type declaration
with the entities that it declares.
-/
namespace WireSchema.Xml

namespace Scan

/-- An attribute of the declaration; neither its name nor its value matters. -/
def declarationAttribute : Scan Unit := do
  let _ ← qualifiedName
  let _ ← attributeValue

/-- What stands between the attributes of the declaration: white space, or nothing at its end or at
the end of the text. -/
def declarationGap : Scan Unit := do
  if (← lookingAt "?>") || (← peek?).isNone then return ()
  someSpaces

/-- The declaration that may open a document: a version, then an encoding, then `standalone`. -/
def declaration : Scan Unit := do
  drop "<?xml".length
  declarationGap
  if !(← lookingAt "version") then fail (.expectedText "version" (← place))
  declarationAttribute
  declarationGap
  if ← lookingAt "encoding" then
    declarationAttribute
    declarationGap
  if ← lookingAt "standalone" then declarationAttribute
  spaces
  expectText "?>"

def aside (start : Position) : Scan Token := do
  if ← lookingAt "!--" then comment start else instruction start

def externalId : Scan Bool := do
  let isPublic ← lookingAt "PUBLIC"
  if isPublic || (← lookingAt "SYSTEM") then
    drop 6
    someSpaces
    let _ ← literal
    if isPublic then
      someSpaces
      let _ ← literal
    return true
  else return false

def entityValue (isParameter : Bool) : Scan (Option Cursor) := do
  let found ← peek
  if found = '"' ∨ found = '\'' then return some (← literal)
  else if found = 'S' ∨ found = 'P' then
    if !(← externalId) then fail (.invalidExternalId (← place))
    if !isParameter then
      spaces
      if ← lookingAt "NDATA" then
        drop "NDATA".length
        someSpaces
        let _ ← nameOrEnd
    return none
  else fail (.expectedOneOf "a quote, SYSTEM or PUBLIC" found (← place))

def entityDeclaration : Scan (List Token) := do
  drop "!ENTITY".length
  someSpaces
  let isParameter := (← peek?) == some '%'
  if isParameter then
    drop 1
    someSpaces
  let declared ← name
  someSpaces
  let value? ← entityValue isParameter
  spaces
  expect '>'
  return value?.toList.map (.entity declared)

/-- A declaration that says nothing about the tree, up to the next `>`. -/
def skippedDeclaration (doctype : Position) : Scan Unit := do
  let _ ← takeWhile (· ≠ '>')
  if (← peek?).isNone then fail (.unknownToken doctype)
  drop 1

def subsetDeclaration (doctype start : Position) : Scan (List Token) := do
  if ← lookingAt "!ENTITY" then entityDeclaration
  else if (← lookingAt "!--") || (← lookingAt "?") then return [← aside start]
  else if (← lookingAt "!ELEMENT") || (← lookingAt "!ATTLIST") || (← lookingAt "!NOTATION") then
    skippedDeclaration doctype
    return []
  else fail (.unknownToken start)

def subsetEnd : Scan Unit := do
  spaces
  let found ← peek
  if found = '>' then drop 1
  else fail (.expectedOneOf "'>'" found (← place))

def doctypeStart : Scan Bool := do
  drop "<!DOCTYPE".length
  someSpaces
  let _ ← nameOrEnd
  spaces
  let _ ← externalId
  spaces
  let found ← peek
  if found = '[' ∨ found = '>' then
    drop 1
    return found == '['
  else fail (.expectedOneOf "'[' or '>'" found (← place))

end Scan

/-- A comment or instruction after white space; anything else ends the run. -/
def miscStep (_ : Unit) (c : Cursor) : Except Error (Step Token Unit c) :=
  match Scan.spaces c with
  | .error e => .error e
  | .ok ⟨_, k, k_le⟩ =>
    match h : k.rest with
    | '<' :: _ =>
      if k.startsWith "<!--" || k.startsWith "<?" then
        Step.reading (Nat.lt_of_lt_of_le (Cursor.size_next_lt h) k_le) do
          return ([← Scan.aside k.place], ())
      else .ok (.stop k)
    | _ => .ok (.stop k)

def miscTokens (c : Cursor) : Journal Token Error Cursor := repeatSteps miscStep () c

def subsetStep (doctype : Position) (_ : Unit) (c : Cursor) :
    Except Error (Step Token Unit c) :=
  match Scan.spaces c with
  | .error e => .error e
  | .ok ⟨_, k, k_le⟩ =>
    match h : k.rest with
    | '<' :: _ =>
      Step.reading (Nat.lt_of_lt_of_le (Cursor.size_next_lt h) k_le) do
        return (← Scan.subsetDeclaration doctype k.place, ())
    | ']' :: _ =>
      match Scan.subsetEnd k.next with
      | .error e => .error e
      | .ok r => .ok (.stop r.next)
    | [] => if c.rest.isEmpty then .ok (.stop c) else .error (.unknownToken k.place)
    | _ => .error (.unknownToken k.place)

def doctypeTokens (c : Cursor) : Journal Token Error Cursor :=
  match Scan.doctypeStart c with
  | .error e => .fail e
  | .ok ⟨false, next, _⟩ => pure next
  | .ok ⟨true, next, _⟩ => repeatSteps (subsetStep c.place) () next

end WireSchema.Xml
