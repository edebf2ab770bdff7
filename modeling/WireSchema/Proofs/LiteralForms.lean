import Mathlib.Data.Nat.Digits.Defs
import WireSchema.Proofs.Reading

/-!
Which texts are number literals. The value of a digit is its place in a row of digits, and the value
of a numeral is the sum of its digits by place; both are stated here without the reader. Ids and
widths are read from the literals of these forms whose values fit, and from no others.
-/
namespace WireSchema
open Text Xml

def digitRow : List Char := "0123456789abcdef".toList

/-- Digits of a base in either case, as many as there are, with the last one in the lowest place. -/
structure IsNumeral (base : Nat) (digits : List Char) (n : Nat) : Prop where
  nonempty : digits ≠ []
  inRow : ∀ c ∈ digits, c.toLower ∈ digitRow.take base
  value : Nat.ofDigits base (digits.reverse.map fun c => digitRow.idxOf c.toLower) = n

instance (base : Nat) (digits : List Char) (n : Nat) : Decidable (IsNumeral base digits n) :=
  decidable_of_iff
    (digits ≠ [] ∧ (digits.all fun c => decide (c.toLower ∈ digitRow.take base)) = true ∧
      Nat.ofDigits base (digits.reverse.map fun c => digitRow.idxOf c.toLower) = n)
    ⟨fun h => ⟨h.1, by simpa using h.2.1, h.2.2⟩, fun h => ⟨h.1, by simpa using h.2, h.3⟩⟩

def IsDecimal (text : String) (n : Nat) : Prop :=
  ∃ digits, (text.toList = digits ∨ text.toList = '+' :: digits) ∧ IsNumeral 10 digits n

def IsHexadecimal (text : String) (n : Nat) : Prop :=
  ∃ digits, text.toList = '0' :: 'x' :: digits ∧ IsNumeral 16 digits n

theorem digit?_sixteen (c : Char) :
    digit? 16 c =
      if c.toLower ∈ digitRow then some (digitRow.idxOf c.toLower) else none := by
  -- Up to the letter f this is a table; no further character is a digit or in the row.
  by_cases low : c.toNat ≤ 102
  · have table : ∀ n < 103, digit? 16 (Char.ofNat n) =
        if (Char.ofNat n).toLower ∈ digitRow then
          some (digitRow.idxOf (Char.ofNat n).toLower) else none := by decide +kernel
    rw [← Char.ofNat_toNat c]
    exact table _ (Nat.lt_succ_of_le low)
  · have unread : digit? 16 c = none := by
      rw [Option.eq_none_iff_forall_ne_some]
      exact fun d value => low (toNat_of_digit value).2
    have kept : c.toLower = c := by
      apply dif_neg
      exact fun upper => low (Nat.le_trans (UInt32.le_iff_toNat_le.mp upper.2) (by decide))
    have row : (digitRow.all fun x => decide (x.toNat ≤ 102)) = true := by decide +kernel
    rw [unread, kept, if_neg]
    exact fun member => low (of_decide_eq_true (List.all_eq_true.mp row c member))

theorem digit?_eq_some_iff {base d : Nat} {c : Char} (bound : base ≤ 16) :
    digit? base c = some d ↔
      c.toLower ∈ digitRow.take base ∧ digitRow.idxOf c.toLower = d := by
  have narrowed : digit? base c = (digit? 16 c).filter (· < base) := by
    simp only [digit?, Option.filter_filter]
    congr 1
    funext d
    rw [Bool.eq_iff_iff, Bool.and_eq_true]
    simp only [decide_eq_true_iff]
    omega
  rw [narrowed, Option.filter_eq_some_iff, digit?_sixteen, Option.ite_none_right_eq_some,
    decide_eq_true_iff]
  constructor
  · rintro ⟨⟨member, same⟩, small⟩
    obtain rfl := Option.some.inj same
    exact ⟨(List.mem_take_iff_idxOf_lt member).mpr small, rfl⟩
  · rintro ⟨taken, rfl⟩
    have member := List.mem_of_mem_take taken
    exact ⟨⟨member, rfl⟩, (List.mem_take_iff_idxOf_lt member).mp taken⟩

theorem isNumeral_singleton {base d : Nat} {c : Char} :
    IsNumeral base [c] d ↔ c.toLower ∈ digitRow.take base ∧ digitRow.idxOf c.toLower = d := by
  constructor
  · rintro ⟨_, inRow, value⟩
    exact ⟨inRow c List.mem_cons_self, by simpa using value⟩
  · rintro ⟨inRow, value⟩
    exact ⟨by simp, by simpa using inRow, by simpa using value⟩

theorem isNumeral_concat {base n : Nat} {digits : List Char} {c : Char} (nonempty : digits ≠ []) :
    IsNumeral base (digits ++ [c]) n ↔
      ∃ m d, IsNumeral base digits m ∧
        (c.toLower ∈ digitRow.take base ∧ digitRow.idxOf c.toLower = d) ∧ m * base + d = n := by
  constructor
  · rintro ⟨_, inRow, value⟩
    obtain ⟨before, last⟩ := List.forall_mem_append.mp inRow
    refine ⟨_, _, ⟨nonempty, before, rfl⟩, ⟨last c List.mem_cons_self, rfl⟩, ?_⟩
    rw [← value, List.reverse_append, List.reverse_singleton, List.singleton_append, List.map_cons,
      Nat.ofDigits_cons]
    ring
  · rintro ⟨_, _, ⟨_, before, rfl⟩, ⟨last, rfl⟩, rfl⟩
    refine ⟨by simp, List.forall_mem_append.mpr ⟨before, by simpa using last⟩, ?_⟩
    rw [List.reverse_append, List.reverse_singleton, List.singleton_append, List.map_cons,
      Nat.ofDigits_cons]
    ring

theorem denotes_iff_isNumeral {base n : Nat} {digits : List Char} (bound : base ≤ 16) :
    Denotes base digits n ↔ IsNumeral base digits n := by
  constructor
  · intro denoted
    induction denoted with
    | digit value => exact isNumeral_singleton.mpr ((digit?_eq_some_iff bound).mp value)
    | more before value ih =>
      exact (isNumeral_concat before.ne_nil).mpr
        ⟨_, _, ih, (digit?_eq_some_iff bound).mp value, rfl⟩
  · intro numeral
    induction digits using List.reverseRecOn generalizing n with
    | nil => exact absurd rfl numeral.nonempty
    | append_singleton digits c ih =>
      by_cases single : digits = []
      · subst single
        exact .digit ((digit?_eq_some_iff bound).mpr (isNumeral_singleton.mp numeral))
      · obtain ⟨m, d, before, last, rfl⟩ := (isNumeral_concat single).mp numeral
        exact .more (ih before) ((digit?_eq_some_iff bound).mpr last)

theorem denotesDecimal_iff {text : String} {n : Nat} :
    DenotesDecimal text.toList n ↔ IsDecimal text n := by
  simp only [DenotesDecimal, IsDecimal, denotes_iff_isNumeral (show 10 ≤ 16 by decide)]

theorem denotesHexadecimal_iff {text : String} {n : Nat} :
    DenotesHexadecimal text.toList n ↔ IsHexadecimal text n := by
  simp only [DenotesHexadecimal, IsHexadecimal, denotes_iff_isNumeral (Nat.le_refl 16)]

theorem not_isDecimal_of_isHexadecimal {text : String} {m n : Nat} (h : IsHexadecimal text m) :
    ¬IsDecimal text n := by
  obtain ⟨digits, same, _⟩ := h
  rw [← denotesDecimal_iff, same]
  exact not_denotesDecimal_zero_x

theorem idOfLiteral?_map_eq_some_iff {literal : String} {n : Nat} :
    (idOfLiteral? literal).map (·.toNat) = some n ↔
      (IsHexadecimal (trim literal) n ∨ IsDecimal (trim literal) n) ∧ n < 2 ^ 64 := by
  simp only [Option.map_eq_some_iff, idOfLiteral?_eq_some_iff, DenotesId, denotesDecimal_iff,
    denotesHexadecimal_iff]
  constructor
  · rintro ⟨id, denoted, rfl⟩
    exact ⟨denoted, id.toNat_lt⟩
  · rintro ⟨denoted, small⟩
    refine ⟨UInt64.ofNat n, ?_, UInt64.toNat_ofNat_of_lt' small⟩
    rwa [UInt64.toNat_ofNat_of_lt' small]

theorem widthOfLiteral?_map_eq_some_iff {literal : String} {n : Nat} :
    (widthOfLiteral? literal).map (·.toNat) = some n ↔
      IsDecimal literal n ∧ 1 ≤ n ∧ n < 2 ^ 32 := by
  simp only [Option.map_eq_some_iff, widthOfLiteral?_eq_some_iff, DenotesWidth, denotesDecimal_iff,
    UInt32.lt_iff_toNat_lt]
  constructor
  · rintro ⟨bits, ⟨positive, denoted⟩, rfl⟩
    exact ⟨denoted, positive, bits.toNat_lt⟩
  · rintro ⟨denoted, positive, small⟩
    refine ⟨UInt32.ofNat n, ?_, UInt32.toNat_ofNat_of_lt' small⟩
    rw [UInt32.toNat_ofNat_of_lt' small]
    exact ⟨positive, denoted⟩

theorem idLiteral_map_eq_ok_iff {literal : String} {n : Nat} :
    (idLiteral literal).map (·.toNat) = .ok n ↔
      (IsHexadecimal (trim literal) n ∨ IsDecimal (trim literal) n) ∧ n < 2 ^ 64 := by
  rw [← idOfLiteral?_map_eq_some_iff, idLiteral]
  cases idOfLiteral? literal <;> simp [Except.map]

theorem idLiteral_of_no_form {literal : String}
    (formless : ∀ n < 2 ^ 64, ¬(IsHexadecimal (trim literal) n ∨ IsDecimal (trim literal) n)) :
    idLiteral literal = .error (.invalidEnumId literal) := by
  cases read : idLiteral literal with
  | error e =>
    unfold idLiteral at read
    split at read
    next => exact read.symm
    next => cases read
  | ok id =>
    have value : (idLiteral literal).map (·.toNat) = .ok id.toNat := by rw [read, Except.map]
    obtain ⟨form, small⟩ := idLiteral_map_eq_ok_iff.mp value
    exact absurd form (formless _ small)

theorem Field.ofNode_of_given {node : Node} {name typeName literal : String}
    (given : ∀ a ∈ [("name", name), ("type", typeName), ("bits", literal)],
      node.attribute? a.1 = some a.2 ∧ ¬Blank a.2) :
    (Field.ofNode node).result =
      match widthOfLiteral? (trim literal) with
      | none => .error (.value (.invalidBits (trim name) (trim literal)))
      | some bits => .ok ⟨trim name, trim typeName, bits⟩ := by
  have required (key value : String)
      (member : (key, value) ∈ [("name", name), ("type", typeName), ("bits", literal)]) :
      requiredAttribute node "field" key = pure (trim value) := by
    obtain ⟨found, solid⟩ := given (key, value) member
    rw [requiredAttribute, found, Option.bind_some, trimmed?_eq, if_neg solid]
    rfl
  unfold Field.ofNode
  rw [required "name" name (by simp), pure_bind, required "type" typeName (by simp), pure_bind,
    required "bits" literal (by simp), pure_bind]
  cases widthOfLiteral? (trim literal) <;> rfl

theorem idValue?_eq_attempts (cs : List Char) :
    let hexadecimal := (hexadecimalDigits? cs).bind (ofNumeral? 16 UInt64.size)
    let decimal := ofNumeral? 10 UInt64.size cs
    idValue? cs = hexadecimal.or decimal ∧ idValue? cs = decimal.or hexadecimal := by
  intro hexadecimal decimal
  unfold idValue? hexadecimal decimal
  cases found : hexadecimalDigits? cs with
  | none => simp
  | some digits =>
    obtain ⟨rfl, _⟩ := hexadecimalDigits?_eq_some_iff.mp found
    have noDecimal : ofNumeral? 10 UInt64.size ('0' :: 'x' :: digits) = none := by
      rw [Option.eq_none_iff_forall_ne_some]
      exact fun n read =>
        not_denotesDecimal_zero_x (ofNumeral?_ten_eq_some_iff.mp read).1
    simp [noDecimal]

/-- An id is read from the hexadecimal and decimal literals whose value fits 64 bits, with blanks around
them, and has this value; any other text is named as it stands. No text has both forms, so either may
be tried first. The width of a field whose attributes are given is read from the decimal literals of a
positive value of 32 bits; with any other, the field and the literal are named, both trimmed. -/
theorem literals_read_exactly :
    (∀ literal n, (idLiteral literal).map (·.toNat) = .ok n ↔
      (IsHexadecimal (trim literal) n ∨ IsDecimal (trim literal) n) ∧ n < 2 ^ 64) ∧
    (∀ literal,
      (∀ n < 2 ^ 64, ¬(IsHexadecimal (trim literal) n ∨ IsDecimal (trim literal) n)) →
      idLiteral literal = .error (.invalidEnumId literal)) ∧
    (∀ text m n, IsHexadecimal text m → ¬IsDecimal text n) ∧
    (∀ cs,
      let hexadecimal := (hexadecimalDigits? cs).bind (ofNumeral? 16 UInt64.size)
      let decimal := ofNumeral? 10 UInt64.size cs
      idValue? cs = hexadecimal.or decimal ∧ idValue? cs = decimal.or hexadecimal) ∧
    (∀ node name typeName literal,
      (∀ a ∈ [("name", name), ("type", typeName), ("bits", literal)],
        Node.attribute? node a.1 = some a.2 ∧ ¬Blank a.2) →
      (∀ n, (Field.ofNode node).result.map (·.bits.toNat) = .ok n ↔
        IsDecimal (trim literal) n ∧ 1 ≤ n ∧ n < 2 ^ 32) ∧
      ((∀ n, 1 ≤ n → n < 2 ^ 32 → ¬IsDecimal (trim literal) n) →
        (Field.ofNode node).result =
          .error (.value (.invalidBits (trim name) (trim literal))))) := by
  refine ⟨fun _ _ => idLiteral_map_eq_ok_iff, fun _ => idLiteral_of_no_form,
    fun _ _ _ => not_isDecimal_of_isHexadecimal, idValue?_eq_attempts, ?_⟩
  intro node name typeName literal given
  rw [Field.ofNode_of_given given]
  constructor
  · intro n
    rw [← widthOfLiteral?_map_eq_some_iff]
    cases widthOfLiteral? (trim literal) <;> simp [Except.map]
  · intro formless
    cases read : widthOfLiteral? (trim literal) with
    | none => rfl
    | some bits =>
      have value : (widthOfLiteral? (trim literal)).map (·.toNat) = some bits.toNat := by
        rw [read, Option.map_some]
      obtain ⟨form, positive, small⟩ := widthOfLiteral?_map_eq_some_iff.mp value
      exact absurd form (formless _ positive small)

/-- A hexadecimal literal is an id but no width, and a prefix alone is neither. -/
theorem literals_of_a_field_and_an_id :
    let node : Node := .element ⟨none, "field"⟩
      [⟨⟨none, "name"⟩, " len"⟩, ⟨⟨none, "type"⟩, "u8"⟩, ⟨⟨none, "bits"⟩, "0x20 "⟩] []
    (idLiteral " 0x020 ").map (·.toNat) = .ok 32 ∧
      idLiteral " 0x" = .error (.invalidEnumId " 0x") ∧
      (Field.ofNode node).result = .error (.value (.invalidBits "len" "0x20")) := by
  intro node
  obtain ⟨accepted, refused, apart, _, widths⟩ := literals_read_exactly
  have long : trim " 0x020 " = "0x020" := by decide +kernel
  have bare : trim " 0x" = "0x" := by decide +kernel
  have short : trim "0x20 " = "0x20" := by decide +kernel
  have twenty : IsHexadecimal "0x20" 32 :=
    ⟨['2', '0'], by decide, by decide +kernel⟩
  refine ⟨(accepted _ _).mpr ⟨.inl ?_, by decide⟩, refused _ ?_, ?_⟩
  · rw [long]
    exact ⟨['0', '2', '0'], by decide, by decide +kernel⟩
  · intro n _ form
    rw [bare] at form
    rcases form with ⟨digits, same, numeral⟩ | ⟨digits, rfl | signed, numeral⟩
    · have missing : digits = [] := by simpa using same.symm
      exact numeral.nonempty missing
    · exact absurd (numeral.inRow 'x' (by decide)) (by decide)
    · exact absurd signed (by simp)
  · obtain ⟨_, invalid⟩ := widths node " len" "u8" "0x20 " (by decide +kernel)
    have name : trim " len" = "len" := by decide +kernel
    rw [invalid fun n _ _ => by rw [short]; exact apart _ _ n twenty, name, short]

end WireSchema
