import WireSchema.Definition.Basic

/-!
Widths of fields as exact numbers. The sum in 64-bit words is the exact one as long as that fits, and
then the offset of every field is the exact width of the fields before it.
-/
namespace WireSchema
namespace Layout

/-- The width of fields in bits, without a bound. -/
def exactWidth : List Field → Nat
  | [] => 0
  | field :: fields => field.bits.toNat + exactWidth fields

theorem exactWidth_append (fields more : List Field) :
    exactWidth (fields ++ more) = exactWidth fields + exactWidth more := by
  induction fields with
  | nil => simp [exactWidth]
  | cons field fields ih => simp [exactWidth, ih, Nat.add_assoc]

theorem exactWidth_le (fields : List Field) :
    exactWidth fields ≤ fields.length * (UInt32.size - 1) := by
  induction fields with
  | nil => simp [exactWidth]
  | cons field fields ih =>
    have width : field.bits.toNat ≤ UInt32.size - 1 := Nat.le_pred_of_lt field.bits.toNat_lt
    rw [exactWidth, List.length_cons, Nat.succ_mul]
    omega

/-- Two fields more than the widest one has bits still have a sum that fits, and no more than that. -/
theorem exactWidth_lt_of_length_le {fields : List Field} (few : fields.length ≤ UInt32.size + 1) :
    exactWidth fields < UInt64.size := by
  calc
    exactWidth fields ≤ fields.length * (UInt32.size - 1) := exactWidth_le fields
    _ ≤ (UInt32.size + 1) * (UInt32.size - 1) := Nat.mul_le_mul_right _ few
    _ < UInt64.size := by decide

theorem toNat_add_bits {offset : UInt64} {field : Field}
    (fits : offset.toNat + field.bits.toNat < UInt64.size) :
    (offset + field.bits.toUInt64).toNat = offset.toNat + field.bits.toNat := by
  rw [UInt64.toNat_add, UInt32.toNat_toUInt64]
  exact Nat.mod_eq_of_lt fits

theorem toNat_widthFrom {offset : UInt64} {fields : List Field}
    (fits : offset.toNat + exactWidth fields < UInt64.size) :
    (widthFrom offset fields).toNat = offset.toNat + exactWidth fields := by
  induction fields generalizing offset with
  | nil => rfl
  | cons field fields ih =>
    rw [exactWidth, ← Nat.add_assoc] at fits ⊢
    have step : (offset + field.bits.toUInt64).toNat = offset.toNat + field.bits.toNat :=
      toNat_add_bits (by omega)
    rw [widthFrom_cons, ih (by rw [step]; exact fits), step]

theorem placedFrom_getElem? {offset : UInt64} {fields : List Field} {i : Nat} :
    (placedFrom offset fields)[i]? =
      fields[i]?.map fun field => (widthFrom offset (fields.take i), field) := by
  induction fields generalizing offset i with
  | nil => simp [placedFrom]
  | cons field fields ih =>
    cases i with
    | zero => simp [placedFrom, widthFrom]
    | succ i => simpa [placedFrom, widthFrom_cons] using ih

/-- Every sum of the widths of first fields is exact if the sum of all fits. -/
theorem toNat_widthFrom_take {fields : List Field} (fits : exactWidth fields < UInt64.size) (i : Nat) :
    (widthFrom 0 (fields.take i)).toNat = exactWidth (fields.take i) := by
  have whole := exactWidth_append (fields.take i) (fields.drop i)
  rw [List.take_append_drop] at whole
  have zero : (0 : UInt64).toNat = 0 := rfl
  rw [toNat_widthFrom (by omega), zero, Nat.zero_add]

/-- No offset wraps around, and neither does the step from it to the next, if the sum of all fits. -/
theorem exact_of_placed {layout : Layout} (fits : exactWidth layout.fields < UInt64.size) {i : Nat}
    {offset : UInt64} {field : Field} (here : layout.placed[i]? = some (offset, field)) :
    offset.toNat = exactWidth (layout.fields.take i) ∧
      offset.toNat + field.bits.toNat < UInt64.size := by
  rw [placed, placedFrom_getElem?, Option.map_eq_some_iff] at here
  obtain ⟨found, at_i, same⟩ := here
  obtain ⟨rfl, rfl⟩ := Prod.mk.inj same
  have exact := toNat_widthFrom_take fits i
  refine ⟨exact, ?_⟩
  have whole := exactWidth_append (layout.fields.take i) (layout.fields.drop i)
  obtain ⟨bound, rfl⟩ := List.getElem?_eq_some_iff.mp at_i
  rw [List.take_append_drop, List.drop_eq_getElem_cons bound, exactWidth] at whole
  omega

theorem toNat_totalBits {layout : Layout} (fits : exactWidth layout.fields < UInt64.size) :
    layout.totalBits.toNat = exactWidth layout.fields := by
  have all := toNat_widthFrom_take fits layout.fields.length
  rw [List.take_length] at all
  exact all

end Layout
end WireSchema
