/-!
Places in a text: the row and the column of a character, both counted from one.
-/
namespace WireSchema.Xml

structure Position where
  row : Nat
  column : Nat
  deriving DecidableEq, Repr

namespace Position

def start : Position := ⟨1, 1⟩

/-- The place after a character: a line feed starts a row, all else takes one column. -/
def advance (p : Position) (c : Char) : Position :=
  if c = '\n' then ⟨p.row + 1, 1⟩ else ⟨p.row, p.column + 1⟩

def after (p : Position) (cs : List Char) : Position := cs.foldl advance p

def toText (p : Position) : String := s!"{p.row}:{p.column}"

end Position

end WireSchema.Xml
