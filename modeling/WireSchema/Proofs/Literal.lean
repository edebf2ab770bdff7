import WireSchema.Definition.Literal
import WireSchema.Proofs.Text.Numeral
import WireSchema.Proofs.Text.Trim

/-!
What the number literals of a definition denote. An id is any number of 64 bits in one of the two
notations; a width is a decimal number of 32 bits that is not zero. Every id and width has a literal.
-/
namespace WireSchema
open Text

def DenotesId (literal : String) (id : UInt64) : Prop :=
  DenotesHexadecimal literal.toList id.toNat ∨ DenotesDecimal literal.toList id.toNat

def DenotesWidth (literal : String) (bits : UInt32) : Prop :=
  0 < bits ∧ DenotesDecimal literal.toList bits.toNat

theorem clean_of_denotesDecimal {literal : String} {n : Nat}
    (h : DenotesDecimal literal.toList n) : Clean literal := by
  apply clean_of_solid
  · rintro rfl
    obtain ⟨digits, same, denoted⟩ := h
    apply denoted.ne_nil
    rcases same with rfl | signed
    · rfl
    · cases signed
  · exact h.solid

theorem hexadecimalDigits?_eq_some_iff {cs digits : List Char} :
    hexadecimalDigits? cs = some digits ↔
      cs = '0' :: 'x' :: digits ∧ digits ≠ [] ∧ ∀ c ∈ digits, (digit? 16 c).isSome = true := by
  unfold hexadecimalDigits?
  split
  next rest =>
    rw [Option.ite_none_right_eq_some]
    simp only [Bool.and_eq_true, Bool.not_eq_true', List.isEmpty_eq_false_iff, List.all_eq_true]
    constructor
    · rintro ⟨all, same⟩
      obtain rfl := Option.some.inj same
      exact ⟨rfl, all⟩
    · rintro ⟨same, all⟩
      obtain rfl : rest = digits := by simpa using same
      exact ⟨all, rfl⟩
  next other =>
    constructor
    · exact fun found => absurd found (by simp)
    · exact fun ⟨same, _⟩ => absurd same (other digits)

theorem idValue?_eq_some_iff {cs : List Char} {n : Nat} :
    idValue? cs = some n ↔ (DenotesHexadecimal cs n ∨ DenotesDecimal cs n) ∧ n < UInt64.size := by
  unfold idValue?
  cases found : hexadecimalDigits? cs with
  | some digits =>
    obtain ⟨rfl, _, allDigits⟩ := hexadecimalDigits?_eq_some_iff.mp found
    dsimp only
    -- The reader of numerals takes a sign, but what comes after the prefix is digits only.
    have unsigned : '+' ∉ digits := fun sign => absurd (allDigits '+' sign) (by decide)
    rw [ofNumeral?_eq_some_iff (by decide) unsigned, and_congr_left_iff]
    intro _
    constructor
    · exact fun denoted => .inl ⟨digits, rfl, denoted⟩
    · rintro (⟨digits', same, denoted⟩ | denoted)
      · obtain rfl : digits = digits' := by simpa using same
        exact denoted
      · exact absurd denoted not_denotesDecimal_zero_x
  | none =>
    dsimp only
    rw [ofNumeral?_ten_eq_some_iff, and_congr_left_iff]
    intro _
    constructor
    · exact .inr
    · rintro (⟨digits, rfl, denoted⟩ | denoted)
      · have read := hexadecimalDigits?_eq_some_iff.mpr ⟨rfl, denoted.ne_nil, denoted.isSome⟩
        rw [found] at read
        cases read
      · exact denoted

theorem idOfLiteral?_eq_some_iff {literal : String} {id : UInt64} :
    idOfLiteral? literal = some id ↔ DenotesId (trim literal) id := by
  unfold idOfLiteral? DenotesId
  rw [Option.map_eq_some_iff]
  constructor
  · rintro ⟨n, read, rfl⟩
    obtain ⟨denoted, small⟩ := idValue?_eq_some_iff.mp read
    rwa [UInt64.toNat_ofNat_of_lt' small]
  · intro denoted
    exact ⟨id.toNat, idValue?_eq_some_iff.mpr ⟨denoted, id.toNat_lt⟩, UInt64.ofNat_toNat⟩

theorem widthOfLiteral?_eq_some_iff {literal : String} {bits : UInt32} :
    widthOfLiteral? literal = some bits ↔ DenotesWidth literal bits := by
  unfold widthOfLiteral? DenotesWidth
  rw [Option.map_eq_some_iff]
  constructor
  · rintro ⟨n, read, rfl⟩
    obtain ⟨value, positive⟩ := Option.filter_eq_some_iff.mp read
    obtain ⟨denoted, small⟩ := ofNumeral?_ten_eq_some_iff.mp value
    rw [UInt32.lt_iff_toNat_lt, UInt32.toNat_ofNat_of_lt' small]
    exact ⟨by simpa using positive, denoted⟩
  · rintro ⟨positive, denoted⟩
    refine ⟨bits.toNat, Option.filter_eq_some_iff.mpr ⟨?_, ?_⟩, UInt32.ofNat_toNat⟩
    · exact ofNumeral?_ten_eq_some_iff.mpr ⟨denoted, bits.toNat_lt⟩
    · simpa using UInt32.lt_iff_toNat_lt.mp positive

theorem DenotesId.clean {literal : String} {id : UInt64} (h : DenotesId literal id) :
    Clean literal := by
  rcases h with ⟨digits, same, denoted⟩ | decimal
  · apply clean_of_solid
    · rintro rfl
      simp at same
    · exact DenotesHexadecimal.solid ⟨digits, same, denoted⟩
  · exact clean_of_denotesDecimal decimal

theorem DenotesWidth.clean {literal : String} {bits : UInt32} (h : DenotesWidth literal bits) :
    Clean literal := clean_of_denotesDecimal h.2

structure IdNumeral where
  write : UInt64 → String
  denotes : ∀ id, DenotesId (write id) id

namespace IdNumeral

def decimal : IdNumeral where
  write id := Text.decimal id.toNat
  denotes id := .inr (denotesDecimal_decimal id.toNat)

def hexadecimal : IdNumeral where
  write id := Text.hexadecimal id.toNat
  denotes id := .inl (denotesHexadecimal_hexadecimal id.toNat)

end IdNumeral

instance (literal : String) : Decidable (∃ bits, DenotesWidth literal bits) :=
  decidable_of_iff (widthOfLiteral? literal).isSome (by
    simp [Option.isSome_iff_exists, widthOfLiteral?_eq_some_iff])

instance (literal : String) : Decidable (∃ id, DenotesId (trim literal) id) :=
  decidable_of_iff (idOfLiteral? literal).isSome (by
    simp [Option.isSome_iff_exists, idOfLiteral?_eq_some_iff])

end WireSchema
