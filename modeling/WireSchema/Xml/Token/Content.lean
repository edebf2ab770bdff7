import WireSchema.Xml.Steps
import WireSchema.Xml.Token.Markup

/-!
The tokens of element content and of start tags. Nesting is counted here by tags alone, whatever
their names: content ends with the close tag of its outermost level, or with the text.
-/
namespace WireSchema.Xml

/-- Where reading stands: inside a start tag or in content, below so many open levels. -/
inductive Within
  | tag (levels : Nat)
  | content (levels : Nat)
  deriving DecidableEq, Repr

namespace Scan

def characterData : Scan Token := do
  drop "![CDATA[".length
  return .characterData (← charactersThrough "]]>")

def closeTag (start : Position) : Scan Token := do
  drop 1
  let name ← qualifiedName
  spaces
  expect '>'
  return .closeTag name start

def openTag : Scan Token := do
  let start ← place
  return .openTag (← qualifiedName) start

def markup (start : Position) (levels : Nat) : Scan (List Token × Within) := do
  match ← peek? with
  | none => fail (.unknownToken start)
  | some '!' =>
    if ← lookingAt "!--" then return ([← comment start], .content levels)
    else if ← lookingAt "![CDATA[" then return ([← characterData], .content levels)
    else fail (.unknownToken start)
  | some '?' => return ([← instruction start], .content levels)
  | some '/' => return ([← closeTag start], .content (levels - 1))
  | some _ => return ([← openTag], .tag levels)

/-- A run of text whose first character has been read already. -/
def textAfter (first : Char) (start : Position) : Scan Token := do
  if !isXmlChar first then fail (.invalidCharacter first start)
  let run := first :: (← charactersUntil fun cs => cs.head? == some '<')
  if occursIn "]]>".toList run then fail (.invalidCharacterData (← place))
  return .text ⟨start, run⟩

/-- What follows a `/` in a start tag. -/
def childlessEnd (levels : Nat) : Scan (List Token × Within) := do
  expect '>'
  return ([.tagEnd true], .content levels)

/-- An attribute whose first character has been read already. -/
def attributeAfter (first : Char) (start : Position) (levels : Nat) :
    Scan (List Token × Within) := do
  let name ← qualifiedNameAfter first start
  let value ← attributeValue
  return ([.attribute name value start], .tag levels)

end Scan

def contentStep (levels : Nat) (c : Cursor) : Except Error (Step Token Within c) :=
  match h : c.rest with
  | [] => .ok (.stop c)
  | '<' :: _ => Step.reading (Cursor.size_next_lt h) (Scan.markup c.place levels)
  | first :: _ =>
    Step.reading (Cursor.size_next_lt h) do
      return ([← Scan.textAfter first c.place], .content levels)

/-- One part of a start tag. Each attribute has white space before it. -/
def tagStep (levels : Nat) (c : Cursor) : Except Error (Step Token Within c) :=
  if c.rest.isEmpty then .ok (.stop c)
  else
    match Scan.spaces c with
    | .error e => .error e
    | .ok ⟨_, k, k_le⟩ =>
      match h : k.rest with
      | [] => .error .unexpectedEnd
      | '>' :: _ =>
        .ok (.more [.tagEnd false] (.content (levels + 1)) k.next
          (Nat.lt_of_lt_of_le (Cursor.size_next_lt h) k_le))
      | '/' :: _ =>
        Step.reading (Nat.lt_of_lt_of_le (Cursor.size_next_lt h) k_le) (Scan.childlessEnd levels)
      | first :: _ =>
        if !c.rest.head?.any isSpace then .error (.expectedOneOf "a whitespace" first k.place)
        else
          Step.reading (Nat.lt_of_lt_of_le (Cursor.size_next_lt h) k_le)
            (Scan.attributeAfter first k.place levels)

def withinStep (within : Within) (c : Cursor) : Except Error (Step Token Within c) :=
  match within with
  | .content 0 => .ok (.stop c)
  | .content (levels + 1) => contentStep (levels + 1) c
  | .tag levels => tagStep levels c

def contentTokens (c : Cursor) : Journal Token Error Cursor :=
  repeatSteps withinStep (.content 1) c

def elementTokens (c : Cursor) : Journal Token Error Cursor :=
  match Scan.openTag c with
  | .error e => .fail e
  | .ok opening => do
    Journal.record [opening.value]
    repeatSteps withinStep (.tag 0) opening.next

end WireSchema.Xml
