import WireSchema.Proofs.Text.Numeral
import WireSchema.Text.Quoted

/-!
Texts without the characters of a set. Quotation marks keep every unprintable character out: what
stands between them is printable, whatever the text is that they quote.
-/
namespace WireSchema.Text

def FreeOf (ranges : Ranges) (s : String) : Prop := ∀ c ∈ s.toList, ranges.contains c = false

instance (ranges : Ranges) (s : String) : Decidable (FreeOf ranges s) :=
  List.decidableBAll (fun c => ranges.contains c = false) s.toList

/-- Whether characters are from the printable part of ASCII. -/
def InAscii (cs : List Char) : Prop := ∀ c ∈ cs, 32 ≤ c.toNat ∧ c.toNat ≤ 126

instance (cs : List Char) : Decidable (InAscii cs) :=
  List.decidableBAll (fun c : Char => 32 ≤ c.toNat ∧ c.toNat ≤ 126) cs

/-- Whether each range of a set lies in one range of another. -/
def Ranges.Within (ranges wider : Ranges) : Prop :=
  ∀ range ∈ ranges, ∃ outer ∈ wider, outer.1 ≤ range.1 ∧ range.2 ≤ outer.2

/-- The characters that end a line. -/
def lineBreakRanges : Ranges := [(0x000A, 0x000D), (0x0085, 0x0085), (0x2028, 0x2029)]

/-- The controls of the two control blocks. -/
def controlRanges : Ranges := [(0x0000, 0x001F), (0x0080, 0x009F)]

theorem lineBreakRanges_within : lineBreakRanges.Within unprintableRanges := by
  unfold Ranges.Within
  decide +kernel

theorem controlRanges_within : controlRanges.Within unprintableRanges := by
  unfold Ranges.Within
  decide +kernel

section
variable {ranges wider : Ranges} {s t : String}

theorem Ranges.Within.contains (within : ranges.Within wider) {c : Char}
    (member : ranges.contains c = true) : wider.contains c = true := by
  obtain ⟨range, listed, low, high⟩ := (ranges.contains_iff c).mp member
  obtain ⟨outer, listed', below, above⟩ := within range listed
  exact (wider.contains_iff c).mpr ⟨outer, listed', Nat.le_trans below low, Nat.le_trans high above⟩

theorem FreeOf.of_within (free : FreeOf wider s) (within : ranges.Within wider) :
    FreeOf ranges s := by
  intro c member
  rw [Bool.eq_false_iff]
  intro found
  have clear := free c member
  rw [within.contains found] at clear
  contradiction

theorem FreeOf.append (front : FreeOf ranges s) (back : FreeOf ranges t) : FreeOf ranges (s ++ t) := by
  rw [FreeOf, String.toList_append, List.forall_mem_append]
  exact ⟨front, back⟩

theorem isUnprintable_of_ascii {c : Char} (ascii : 32 ≤ c.toNat ∧ c.toNat ≤ 126) :
    isUnprintable c = false := by
  have apart : ∀ range ∈ unprintableRanges, range.2 < 32 ∨ 126 < range.1 := by decide +kernel
  rw [Bool.eq_false_iff]
  intro found
  obtain ⟨range, listed, below, above⟩ := (unprintableRanges.contains_iff c).mp found
  have outside := apart range listed
  omega

theorem freeOf_of_ascii (ascii : InAscii s.toList) : FreeOf unprintableRanges s :=
  fun c member => isUnprintable_of_ascii (ascii c member)

theorem isUnprintable_of_mem_toDigits {base : Nat} (large : 1 < base) (bound : base ≤ 16) (n : Nat) :
    ∀ c ∈ Nat.toDigits base n, isUnprintable c = false := by
  intro c member
  have digit := (denotes_toDigits large bound n).isSome c member
  obtain ⟨d, value⟩ := Option.isSome_iff_exists.mp digit
  obtain ⟨low, high⟩ := toNat_of_digit value
  exact isUnprintable_of_ascii ⟨Nat.le_trans (by decide) low, Nat.le_trans high (by decide)⟩

theorem freeOf_decimal (n : Nat) : FreeOf unprintableRanges (decimal n) := by
  rw [FreeOf, decimal, String.toList_ofList]
  exact isUnprintable_of_mem_toDigits (by decide) (by decide) n

theorem isUnprintable_of_mem_escape {c x : Char} (member : x ∈ escape '"' c) :
    isUnprintable x = false := by
  have mark {ys : List Char} (ascii : InAscii ys) (among : x ∈ ys) :
      isUnprintable x = false := isUnprintable_of_ascii (ascii x among)
  unfold escape at member
  split at member
  next quoted =>
    rw [quoted] at member
    exact mark (by decide) member
  next =>
    split at member
    next => exact mark (by decide) member
    next => exact mark (by decide) member
    next => exact mark (by decide) member
    next => exact mark (by decide) member
    next => exact mark (by decide) member
    next =>
      split at member
      next =>
        rw [codePointEscape, List.append_assoc, List.mem_append, List.mem_append] at member
        rcases member with front | digit | back
        · exact mark (by decide) front
        · exact isUnprintable_of_mem_toDigits (by decide) (by decide) c.toNat x digit
        · exact mark (by decide) back
      next shown =>
        obtain rfl := List.mem_singleton.mp member
        exact (Bool.or_eq_false_iff.mp (Bool.eq_false_iff.mpr shown)).2

theorem freeOf_quote (s : String) : FreeOf unprintableRanges (quote s) := by
  have marked : isUnprintable '"' = false := isUnprintable_of_ascii (by decide)
  rw [FreeOf, quote, quoteChars, String.toList_ofList, List.cons_append, List.forall_mem_cons,
    List.forall_mem_append, List.forall_mem_flatMap, List.forall_mem_singleton]
  exact ⟨marked, fun c _ x member => isUnprintable_of_mem_escape member, marked⟩

end

end WireSchema.Text
