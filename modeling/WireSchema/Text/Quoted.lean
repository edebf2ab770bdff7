import WireSchema.Text.GraphemeExtend
import WireSchema.Text.Printable

/-!
Text between quotation marks. The mark, the backslash and four controls have short escapes; every
other character that is unprintable or combines with the one before it is written by its code point
in hexadecimal. Everything else stands for itself.
-/
namespace WireSchema.Text

/-- The escape by code point: a backslash, `u` and lower-case hexadecimal digits in braces. -/
def codePointEscape (c : Char) : List Char :=
  ['\\', 'u', '\x7b'] ++ Nat.toDigits 16 c.toNat ++ ['\x7d']

/-- One character as it is written between two of the given quotation marks. -/
def escape (mark c : Char) : List Char :=
  if c = mark then ['\\', c]
  else match c with
    | '\x00' => ['\\', '0']
    | '\t' => ['\\', 't']
    | '\n' => ['\\', 'n']
    | '\r' => ['\\', 'r']
    | '\\' => ['\\', '\\']
    | _ => if isCombining c || isUnprintable c then codePointEscape c else [c]

def quoteChars (cs : List Char) : List Char := '"' :: cs.flatMap (escape '"') ++ ['"']

def quote (s : String) : String := String.ofList (quoteChars s.toList)

def quoteChar (c : Char) : String := String.ofList ('\'' :: escape '\'' c ++ ['\''])

end WireSchema.Text
