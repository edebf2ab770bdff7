import WireSchema.Text.Numeral
import WireSchema.Text.Quoted

/-!
Outlines of values: numbers, quoted texts, records, variants with parts, and lists. An outline is
written on one line, or spread over lines with one part on each.
-/
namespace WireSchema
open Text

inductive Outline
  | number (n : Nat)
  | text (s : String)
  | constant (name : String)
  | variant (name : String) (part : Outline)
  | record (name : String) (fields : List (String × Outline))
  | list (items : List Outline)
  deriving Repr

namespace Outline

def indent (level : Nat) : String := String.ofList (List.replicate (4 * level) ' ')

mutual

def compact : Outline → String
  | number n => decimal n
  | text s => quote s
  | constant name => name
  | variant name part => name ++ "(" ++ compact part ++ ")"
  | record name fields => name ++ " \x7b " ++ ", ".intercalate (compactFields fields) ++ " \x7d"
  | list items => "[" ++ ", ".intercalate (compactItems items) ++ "]"

def compactFields : List (String × Outline) → List String
  | [] => []
  | (name, part) :: fields => (name ++ ": " ++ compact part) :: compactFields fields

def compactItems : List Outline → List String
  | [] => []
  | item :: items => compact item :: compactItems items

end

mutual

/-- The outline over several lines; its own parts stand one level below `level`. -/
def spreadAt (level : Nat) : Outline → String
  | number n => decimal n
  | text s => quote s
  | constant name => name
  | variant name part =>
    name ++ "(\n" ++ indent (level + 1) ++ spreadAt (level + 1) part ++ ",\n" ++ indent level ++ ")"
  | record name fields =>
    name ++ " \x7b\n" ++ spreadFields (level + 1) fields ++ indent level ++ "\x7d"
  | list [] => "[]"
  | list (item :: items) =>
    "[\n" ++ indent (level + 1) ++ spreadAt (level + 1) item ++ ",\n" ++
      spreadItems (level + 1) items ++ indent level ++ "]"

def spreadFields (level : Nat) : List (String × Outline) → String
  | [] => ""
  | (name, part) :: fields =>
    indent level ++ name ++ ": " ++ spreadAt level part ++ ",\n" ++ spreadFields level fields

def spreadItems (level : Nat) : List Outline → String
  | [] => ""
  | item :: items => indent level ++ spreadAt level item ++ ",\n" ++ spreadItems level items

end

def spread (outline : Outline) : String := outline.spreadAt 0

end Outline

end WireSchema
