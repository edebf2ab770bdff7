import Mathlib.Data.List.Induction
import WireSchema.Text.Blank
import WireSchema.Text.Numeral

/-!
What numerals denote: digits by their place, a decimal numeral also after one plus sign, and the
`0x` form. Reading a numeral finds what it denotes, and the written forms denote their number.
-/
namespace WireSchema.Text

/-- The number that digits denote in a base: each further digit moves the ones before it up. -/
inductive Denotes (base : Nat) : List Char → Nat → Prop
  | digit {c : Char} {d : Nat} (value : digit? base c = some d) : Denotes base [c] d
  | more {cs : List Char} {n : Nat} {c : Char} {d : Nat} (before : Denotes base cs n)
      (value : digit? base c = some d) : Denotes base (cs ++ [c]) (n * base + d)

def DenotesDecimal (cs : List Char) (n : Nat) : Prop :=
  ∃ digits, (cs = digits ∨ cs = '+' :: digits) ∧ Denotes 10 digits n

def DenotesHexadecimal (cs : List Char) (n : Nat) : Prop :=
  ∃ digits, cs = '0' :: 'x' :: digits ∧ Denotes 16 digits n

theorem Denotes.ne_nil {base n : Nat} {cs : List Char} (h : Denotes base cs n) : cs ≠ [] := by
  cases h <;> simp

theorem Denotes.isSome {base n : Nat} {cs : List Char} (h : Denotes base cs n) :
    ∀ c ∈ cs, (digit? base c).isSome = true := by
  induction h with
  | digit value => simp [value]
  | more before value ih =>
    rw [List.forall_mem_append]
    exact ⟨ih, by simp [value]⟩

private theorem ofDigits_of_ne_nil {base : Nat} {cs : List Char} (h : cs ≠ []) :
    ofDigits? base cs = cs.foldlM (fun n c => (digit? base c).map (n * base + ·)) 0 := by
  cases cs with
  | nil => contradiction
  | cons c rest => rfl

private theorem ofDigits_concat {base : Nat} {cs : List Char} (h : cs ≠ []) (c : Char) :
    ofDigits? base (cs ++ [c]) =
      (ofDigits? base cs).bind fun n => (digit? base c).map (n * base + ·) := by
  rw [ofDigits_of_ne_nil (by simp), ofDigits_of_ne_nil h, List.foldlM_append]
  simp

/-- Reading digits finds the number that they denote, and nothing else is read. -/
theorem ofDigits?_eq_some_iff {base n : Nat} {cs : List Char} :
    ofDigits? base cs = some n ↔ Denotes base cs n := by
  constructor
  · intro read
    -- The last digit is the one with place value one, so digits are taken off at the end.
    induction cs using List.reverseRecOn generalizing n with
    | nil => cases read
    | append_singleton cs c ih =>
      cases cs with
      | nil =>
        apply Denotes.digit
        simpa [ofDigits?] using read
      | cons first rest =>
        rw [ofDigits_concat (by simp)] at read
        obtain ⟨m, before, last⟩ := Option.bind_eq_some_iff.mp read
        obtain ⟨d, value, rfl⟩ := Option.map_eq_some_iff.mp last
        exact .more (ih before) value
  · intro denoted
    induction denoted with
    | digit value => simp [ofDigits?, value]
    | more before value ih => simp [ofDigits_concat before.ne_nil, ih, value]

theorem foldlM_digits_le {base n m : Nat} {cs : List Char} (positive : 0 < base)
    (read : cs.foldlM (fun n c => (digit? base c).map (n * base + ·)) n = some m) : n ≤ m := by
  induction cs generalizing n with
  | nil => exact Nat.le_of_eq (Option.some.inj read)
  | cons c rest ih =>
    rw [List.foldlM_cons] at read
    obtain ⟨next, step, after⟩ := Option.bind_eq_some_iff.mp read
    obtain ⟨d, _, rfl⟩ := Option.map_eq_some_iff.mp step
    calc
      n ≤ n * base := Nat.le_mul_of_pos_right n positive
      _ ≤ n * base + d := Nat.le_add_right ..
      _ ≤ m := ih after

theorem foldlM_digits_below {base size n : Nat} {cs : List Char} (positive : 0 < base) :
    ((some n).filter (· < size)).bind
        (cs.foldlM fun n c => ((digit? base c).map (n * base + ·)).filter (· < size)) =
      (cs.foldlM (fun n c => (digit? base c).map (n * base + ·)) n).filter (· < size) := by
  induction cs generalizing n with
  | nil => exact Option.bind_fun_some _
  | cons c rest ih =>
    by_cases small : n < size
    · rw [Option.filter_some_pos (by simpa using small), Option.bind_some, List.foldlM_cons,
        List.foldlM_cons]
      cases digit? base c with
      | none => rfl
      | some d => exact ih
    -- A count that has left the word never comes back into it.
    · rw [Option.filter_some_neg (by simpa using small), Option.bind_none, eq_comm,
        Option.filter_eq_none_iff]
      intro m read
      have grown := foldlM_digits_le positive read
      simpa using Nat.le_trans (Nat.le_of_not_lt small) grown

theorem ofDigitsBelow?_eq_filter {base size : Nat} {cs : List Char} (positive : 0 < base) :
    ofDigitsBelow? base size cs = (ofDigits? base cs).filter (· < size) := by
  cases cs with
  | nil => rfl
  | cons c rest =>
    simp only [ofDigitsBelow?, ofDigits?, List.foldlM_cons]
    cases digit? base c with
    | none => rfl
    | some d => exact foldlM_digits_below positive

theorem digit?_digitChar {base d : Nat} (inBase : d < base) (bound : base ≤ 16) :
    digit? base d.digitChar = some d := by
  have all : ∀ d < 16, digit? 16 d.digitChar = some d := by decide
  have read := all d (by omega)
  unfold digit? at read ⊢
  obtain ⟨found, _⟩ := Option.filter_eq_some_iff.mp read
  exact Option.filter_eq_some_iff.mpr ⟨found, by simpa using inBase⟩

theorem toNat_of_digit {base d : Nat} {c : Char} (value : digit? base c = some d) :
    48 ≤ c.toNat ∧ c.toNat ≤ 102 := by
  obtain ⟨found, _⟩ := Option.filter_eq_some_iff.mp value
  split at found
  next decimal => exact ⟨decimal.1, Nat.le_trans decimal.2 (by decide)⟩
  next =>
    split at found
    next lower => exact ⟨Nat.le_trans (by decide) lower.1, lower.2⟩
    next =>
      split at found
      next upper => exact ⟨Nat.le_trans (by decide) upper.1, Nat.le_trans upper.2 (by decide)⟩
      next => contradiction

theorem not_blank_of_digit {base d : Nat} {c : Char} (value : digit? base c = some d) :
    isBlank c = false := by
  have range := toNat_of_digit value
  have apart : ∀ range ∈ blankRanges, range.2 < 48 ∨ 102 < range.1 := by decide
  rw [Bool.eq_false_iff]
  intro blank
  obtain ⟨blanks, listed, low, high⟩ := (Ranges.contains_iff _ _).mp blank
  have outside := apart blanks listed
  omega

theorem Denotes.solid {base n : Nat} {cs : List Char} (h : Denotes base cs n) :
    ∀ c ∈ cs, isBlank c = false := by
  induction h with
  | digit value =>
    intro c member
    rw [List.mem_singleton.mp member]
    exact not_blank_of_digit value
  | more before value ih =>
    intro c member
    rcases List.mem_append.mp member with early | last
    · exact ih c early
    · rw [List.mem_singleton.mp last]
      exact not_blank_of_digit value

theorem denotes_toDigits {base : Nat} (large : 1 < base) (bound : base ≤ 16) (n : Nat) :
    Denotes base (Nat.toDigits base n) n := by
  induction n using Nat.base_induction base large with
  | single m inBase =>
    rw [Nat.toDigits_of_lt_base inBase]
    exact .digit (digit?_digitChar inBase bound)
  | digit m k inBase positive ih =>
    rw [← Nat.toDigits_append_toDigits large positive inBase, Nat.toDigits_of_lt_base inBase,
      Nat.mul_comm]
    exact ih.more (digit?_digitChar inBase bound)

private theorem not_denotes_of_head {base n : Nat} {c : Char} {rest : List Char}
    (noDigit : digit? base c = none) : ¬Denotes base (c :: rest) n := by
  intro denoted
  have read := ofDigits?_eq_some_iff.mpr denoted
  simp [ofDigits?, noDigit] at read

theorem ofDecimal?_eq_some_iff {cs : List Char} {n : Nat} :
    ofDecimal? cs = some n ↔ DenotesDecimal cs n := by
  unfold ofDecimal? DenotesDecimal
  split
  next digits =>
    rw [ofDigits?_eq_some_iff]
    constructor
    · exact fun denoted => ⟨digits, .inr rfl, denoted⟩
    · rintro ⟨digits', rfl | same, denoted⟩
      · exact absurd denoted (not_denotes_of_head (by decide))
      · obtain ⟨_, rfl⟩ := List.cons_eq_cons.mp same
        exact denoted
  next unsigned =>
    rw [ofDigits?_eq_some_iff]
    constructor
    · exact fun denoted => ⟨cs, .inl rfl, denoted⟩
    · rintro ⟨digits, rfl | signed, denoted⟩
      · exact denoted
      · exact absurd signed (unsigned digits)

theorem ofNumeral?_ten_eq_some_iff {size n : Nat} {cs : List Char} :
    ofNumeral? 10 size cs = some n ↔ DenotesDecimal cs n ∧ n < size := by
  have filtered : ofNumeral? 10 size cs = (ofDecimal? cs).filter (· < size) := by
    unfold ofNumeral? ofDecimal?
    split <;> exact ofDigitsBelow?_eq_filter (by decide)
  rw [filtered, Option.filter_eq_some_iff, ofDecimal?_eq_some_iff, decide_eq_true_iff]

theorem ofNumeral?_eq_some_iff {base size n : Nat} {cs : List Char} (positive : 0 < base)
    (unsigned : '+' ∉ cs) : ofNumeral? base size cs = some n ↔ Denotes base cs n ∧ n < size := by
  have filtered : ofNumeral? base size cs = (ofDigits? base cs).filter (· < size) := by
    unfold ofNumeral?
    split
    next => exact absurd List.mem_cons_self unsigned
    next => exact ofDigitsBelow?_eq_filter positive
  rw [filtered, Option.filter_eq_some_iff, ofDigits?_eq_some_iff, decide_eq_true_iff]

/-- No numeral is both decimal and hexadecimal. -/
theorem not_denotesDecimal_zero_x {digits : List Char} {n : Nat} :
    ¬DenotesDecimal ('0' :: 'x' :: digits) n := by
  rintro ⟨unsigned, rfl | signed, denoted⟩
  · have read := ofDigits?_eq_some_iff.mpr denoted
    have noDigit : digit? 10 'x' = none := by decide
    simp [ofDigits?, noDigit] at read
  · simp at signed

theorem DenotesDecimal.solid {cs : List Char} {n : Nat} (h : DenotesDecimal cs n) :
    ∀ c ∈ cs, isBlank c = false := by
  obtain ⟨digits, rfl | rfl, denoted⟩ := h
  · exact denoted.solid
  · exact List.forall_mem_cons.mpr ⟨by decide, denoted.solid⟩

theorem DenotesHexadecimal.solid {cs : List Char} {n : Nat} (h : DenotesHexadecimal cs n) :
    ∀ c ∈ cs, isBlank c = false := by
  obtain ⟨digits, rfl, denoted⟩ := h
  exact List.forall_mem_cons.mpr ⟨by decide, List.forall_mem_cons.mpr ⟨by decide, denoted.solid⟩⟩

theorem denotesDecimal_decimal (n : Nat) : DenotesDecimal (decimal n).toList n := by
  refine ⟨Nat.toDigits 10 n, .inl ?_, denotes_toDigits (by decide) (by decide) n⟩
  rw [decimal, String.toList_ofList]

theorem denotesHexadecimal_hexadecimal (n : Nat) :
    DenotesHexadecimal (hexadecimal n).toList n := by
  refine ⟨Nat.toDigits 16 n, ?_, denotes_toDigits (by decide) (by decide) n⟩
  rw [hexadecimal, String.toList_ofList]

end WireSchema.Text
