/-!
Numerals: digit strings read in a base, of any size or within a machine word, the optional plus sign
of a numeral, and the written forms.
-/
namespace WireSchema.Text

def digit? (base : Nat) (c : Char) : Option Nat :=
  let value :=
    if '0' ≤ c ∧ c ≤ '9' then some (c.toNat - '0'.toNat)
    else if 'a' ≤ c ∧ c ≤ 'f' then some (c.toNat - 'a'.toNat + 10)
    else if 'A' ≤ c ∧ c ≤ 'F' then some (c.toNat - 'A'.toNat + 10)
    else none
  value.filter (· < base)

/-- The value of one or more digits; leading zeros are allowed. -/
def ofDigits? (base : Nat) : List Char → Option Nat
  | [] => none
  | cs => cs.foldlM (fun n c => (digit? base c).map (n * base + ·)) 0

def ofDecimal? : List Char → Option Nat
  | '+' :: cs => ofDigits? 10 cs
  | cs => ofDigits? 10 cs

/-- The value of digits counted in a machine word: the first digit that takes it to the size of the
word or beyond ends the count. -/
def ofDigitsBelow? (base size : Nat) : List Char → Option Nat
  | [] => none
  | cs => cs.foldlM (fun n c => ((digit? base c).map (n * base + ·)).filter (· < size)) 0

def ofNumeral? (base size : Nat) : List Char → Option Nat
  | '+' :: cs => ofDigitsBelow? base size cs
  | cs => ofDigitsBelow? base size cs

def decimal (n : Nat) : String := String.ofList (Nat.toDigits 10 n)

def hexadecimal (n : Nat) : String := String.ofList ('0' :: 'x' :: Nat.toDigits 16 n)

end WireSchema.Text
