import WireSchema.Xml.NameReader
import WireSchema.Xml.Token

/-!
The pieces of markup that occur in more than one part of a document. Each is read from just after
the `<` that opens it; `start` is the place of that `<`.
-/
namespace WireSchema.Xml

def occursIn (wanted : List Char) : List Char → Bool
  | [] => wanted.isEmpty
  | c :: cs => wanted.isPrefixOf (c :: cs) || occursIn wanted cs

namespace Scan

/-- A comment. Its content has no two hyphens in a row and does not end in one. -/
def comment (start : Position) : Scan Token := do
  drop "!--".length
  let content ← charactersThrough "-->"
  if occursIn "--".toList content || content.getLast? == some '-' then
    fail (.invalidComment start)
  return .comment (String.ofList content)

def instruction (start : Position) : Scan Token := do
  if ← lookingAt "?xml " then fail (.unexpectedDeclaration start)
  drop 1
  let target ← name
  spaces
  let content ← charactersThrough "?>"
  return .instruction target (String.ofList content)

def attributeValue : Scan Cursor := do
  spaces
  expect '='
  spaces
  let mark ← quotationMark
  let start ← place
  let content ← charactersUntil fun cs => cs.head?.any fun c => c = mark || c = '<'
  expect mark
  return ⟨start, content⟩

end Scan

end WireSchema.Xml
