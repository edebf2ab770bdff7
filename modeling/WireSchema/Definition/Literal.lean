import WireSchema.Text.Blank
import WireSchema.Text.Numeral

/-!
Number literals of a definition: ids of 64 bits, decimal or `0x` and hexadecimal digits, with blanks
around them, and decimal widths of 32 bits that are not zero.
-/
namespace WireSchema
open Text

def hexadecimalDigits? : List Char → Option (List Char)
  | '0' :: 'x' :: digits =>
    if !digits.isEmpty && digits.all fun c => (digit? 16 c).isSome then some digits else none
  | _ => none

/-- The number that a trimmed id literal denotes. What has no hexadecimal digits is tried as a decimal
numeral, also if it starts with `0x`. -/
def idValue? (cs : List Char) : Option Nat :=
  match hexadecimalDigits? cs with
  | some digits => ofNumeral? 16 UInt64.size digits
  | none => ofNumeral? 10 UInt64.size cs

def idOfLiteral? (literal : String) : Option UInt64 :=
  (idValue? (trim literal).toList).map (UInt64.ofNat ·)

def widthOfLiteral? (literal : String) : Option UInt32 :=
  ((ofNumeral? 10 UInt32.size literal.toList).filter (0 < ·)).map (UInt32.ofNat ·)

end WireSchema
