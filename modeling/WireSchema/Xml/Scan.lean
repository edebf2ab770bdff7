import WireSchema.Xml.Character
import WireSchema.Xml.Cursor
import WireSchema.Xml.Error

/-!
Reading from the front of a text. A reading returns a value and what is left, which is never longer
than what it was given; readings in sequence form a monad.
-/
namespace WireSchema.Xml

structure Reading (c : Cursor) (α : Type) where
  value : α
  next : Cursor
  next_le : next.size ≤ c.size

def Scan (α : Type) : Type := (c : Cursor) → Except Error (Reading c α)

namespace Scan
variable {α β : Type}

protected def pure (a : α) : Scan α := fun c => .ok ⟨a, c, Nat.le_refl _⟩

protected def bind (p : Scan α) (f : α → Scan β) : Scan β := fun c =>
  match p c with
  | .error e => .error e
  | .ok r =>
    match f r.value r.next with
    | .error e => .error e
    | .ok s => .ok ⟨s.value, s.next, Nat.le_trans s.next_le r.next_le⟩

instance : Monad Scan where
  pure := Scan.pure
  bind := Scan.bind

def fail (e : Error) : Scan α := fun _ => .error e

def cursor : Scan Cursor := fun c => .ok ⟨c, c, Nat.le_refl _⟩

def place : Scan Position := return (← cursor).place

def lookingAt (s : String) : Scan Bool := return (← cursor).startsWith s

def peek? : Scan (Option Char) := return (← cursor).rest.head?

/-- The next character, still unread; the text must not end here. -/
def peek : Scan Char := do
  match ← peek? with
  | none => fail .unexpectedEnd
  | some found => return found

def drop (n : Nat) : Scan Unit := fun c => .ok ⟨(), c.drop n, c.size_drop_le n⟩

def takeWhile (p : Char → Bool) : Scan (List Char) := do
  let run := (← cursor).rest.takeWhile p
  drop run.length
  return run

def spaces : Scan Unit := do
  let _ ← takeWhile isSpace

/-- White space, at least one character of it. -/
def someSpaces : Scan Unit := do
  let found ← peek
  if isSpace found then spaces
  else fail (.expectedOneOf "a whitespace" found (← place))

def expect (wanted : Char) : Scan Unit := do
  let found ← peek
  if found = wanted then drop 1
  else fail (.expectedCharacter wanted found (← place))

def expectText (wanted : String) : Scan Unit := do
  if ← lookingAt wanted then drop wanted.length
  else fail (.expectedText wanted (← place))

/-- An opening quotation mark of either kind. -/
def quotationMark : Scan Char := do
  let found ← peek
  if found = '"' ∨ found = '\'' then
    drop 1
    return found
  else fail (.expectedOneOf "a quote" found (← place))

/-- Characters from here to where `stop` holds of what is left. Each must be an XML character, also
the one that `stop` is asked about. -/
private def charactersFrom (stop : List Char → Bool) :
    (p : Position) → (cs : List Char) → Except Error (Reading ⟨p, cs⟩ (List Char))
  | p, [] => .ok ⟨[], ⟨p, []⟩, Nat.le_refl _⟩
  | p, c :: cs =>
    if !isXmlChar c then .error (.invalidCharacter c p)
    else if stop (c :: cs) then .ok ⟨[], ⟨p, c :: cs⟩, Nat.le_refl _⟩
    else
      match charactersFrom stop (p.advance c) cs with
      | .error e => .error e
      | .ok r => .ok ⟨c :: r.value, r.next, Nat.le_succ_of_le r.next_le⟩

def charactersUntil (stop : List Char → Bool) : Scan (List Char) := fun c =>
  charactersFrom stop c.place c.rest

/-- Characters up to a closing text, which is read too. -/
def charactersThrough (closing : String) : Scan (List Char) := do
  let run ← charactersUntil closing.toList.isPrefixOf
  expectText closing
  return run

def literal : Scan Cursor := do
  let mark ← quotationMark
  let start ← place
  let run ← takeWhile (· ≠ mark)
  expect mark
  return ⟨start, run⟩

end Scan

end WireSchema.Xml
