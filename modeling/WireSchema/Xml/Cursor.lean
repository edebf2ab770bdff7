import WireSchema.Xml.Position

/-!
A stretch of text together with the place where it starts: what is left to read of a document, or
the value of an entity or attribute as it stands in the document.
-/
namespace WireSchema.Xml

structure Cursor where
  place : Position
  rest : List Char
  deriving DecidableEq, Repr

namespace Cursor

def ofString (s : String) : Cursor := ⟨.start, s.toList⟩

def size (c : Cursor) : Nat := c.rest.length

def next (c : Cursor) : Cursor :=
  match c.rest with
  | [] => c
  | ch :: rest => ⟨c.place.advance ch, rest⟩

def drop (c : Cursor) (n : Nat) : Cursor := ⟨c.place.after (c.rest.take n), c.rest.drop n⟩

def startsWith (c : Cursor) (s : String) : Bool := s.toList.isPrefixOf c.rest

theorem size_drop_le (c : Cursor) (n : Nat) : (c.drop n).size ≤ c.size := by
  simp [size, drop]

theorem size_next_lt {c : Cursor} {ch : Char} {rest : List Char} (h : c.rest = ch :: rest) :
    c.next.size < c.size := by
  simp [next, size, h]

end Cursor

end WireSchema.Xml
