import WireSchema.Xml.Name
import WireSchema.Xml.Scan

/-!
Reading names. A plain name may hold colons anywhere; a qualified one has at most one, and each of
its two parts starts like a name.
-/
namespace WireSchema.Xml

def QualifiedName.ofChars? (run : List Char) : Option QualifiedName :=
  let (qualifier, base) :=
    if ':' ∈ run then (run.takeWhile (· ≠ ':'), (run.dropWhile (· ≠ ':')).drop 1) else ([], run)
  if qualifier.head?.all isNameStart && base.head?.any isNameStart && ':' ∉ base then
    some ⟨String.ofList qualifier, String.ofList base⟩
  else none

namespace Scan

/-- A plain name; at the end of the text it is empty. -/
def nameOrEnd : Scan String := do
  match ← peek? with
  | none => return ""
  | some first =>
    if isNameStart first then return String.ofList (← takeWhile isNameChar)
    else fail (.invalidName (← place))

def name : Scan String := do
  let start ← place
  let found ← nameOrEnd
  if found.isEmpty then fail (.invalidName start) else return found

def qualifiedName : Scan QualifiedName := do
  let start ← place
  match QualifiedName.ofChars? (← takeWhile isNameChar) with
  | none => fail (.invalidName start)
  | some found => return found

/-- What is left of a qualified name whose first character has been read already. -/
def qualifiedNameAfter (first : Char) (start : Position) : Scan QualifiedName := do
  if !isNameChar first then fail (.invalidName start)
  match QualifiedName.ofChars? (first :: (← takeWhile isNameChar)) with
  | none => fail (.invalidName start)
  | some found => return found

end Scan

end WireSchema.Xml
