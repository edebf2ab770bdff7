import WireSchema.Definition.Edit
import WireSchema.Proofs.Widths

/-!
Editing sessions. What a definition answers after an edit is told by what it answered before. Lookups
find the first item with a key: an item that comes in is found unless one with its key stands before
it, and an item that goes is missed only if no other one has its key.
-/
namespace WireSchema

section
variable {α κ : Type} [DecidableEq κ] {key : α → κ} {k : κ}

theorem find?_key_eq_none_iff {items : List α} :
    items.find? (key · == k) = none ↔ k ∉ items.map key := by
  simp only [List.find?_eq_none, beq_iff_eq, List.mem_map, not_exists, not_and]

theorem find?_key_insert (before after : List α) (x : α) :
    (before ++ x :: after).find? (key · == k) =
      if k = key x ∧ k ∉ before.map key then some x else (before ++ after).find? (key · == k) := by
  rw [List.find?_append, List.find?_append]
  by_cases absent : k ∉ before.map key
  · rw [find?_key_eq_none_iff.mpr absent, Option.none_or, Option.none_or]
    by_cases same : k = key x
    · rw [if_pos ⟨same, absent⟩]
      exact List.find?_cons_of_pos (beq_iff_eq.mpr same.symm)
    · rw [if_neg fun both => same both.1]
      exact List.find?_cons_of_neg fun found => same (beq_iff_eq.mp found).symm
  · rw [if_neg fun both => absent both.2]
    cases earlier : before.find? (key · == k) with
    | none => exact absurd (find?_key_eq_none_iff.mp earlier) absent
    | some y => rfl

theorem find?_key_concat (items : List α) (x : α) :
    (items ++ [x]).find? (key · == k) =
      if k = key x ∧ k ∉ items.map key then some x else items.find? (key · == k) := by
  rw [find?_key_insert, List.append_nil]

theorem find?_key_dropLast (items : List α) :
    items.dropLast.find? (key · == k) =
      if items.getLast?.map key = some k ∧ k ∉ items.dropLast.map key then none
      else items.find? (key · == k) := by
  cases found : items.getLast? with
  | none =>
    obtain rfl := List.getLast?_eq_none_iff.mp found
    rfl
  | some last =>
    obtain ⟨before, rfl⟩ := List.getLast?_eq_some_iff.mp found
    rw [List.dropLast_concat, find?_key_concat, Option.map_some]
    by_cases sole : k = key last ∧ k ∉ before.map key
    · rw [if_pos ⟨congrArg some sole.1.symm, sole.2⟩]
      exact find?_key_eq_none_iff.mpr sole.2
    · rw [if_neg sole, if_neg]
      exact fun both => sole ⟨(Option.some.inj both.1).symm, both.2⟩

end

namespace Edit
open Layout

/-- The bits that an edit adds to the width of a definition; below zero if it takes bits away. -/
def widthChange (d : Definition) : Edit → Int
  | pushField field | insertField _ field => field.bits.toNat
  | popField => -(d.layout.fields.getLast?.elim 0 fun last => (last.bits.toNat : Int))
  | _ => 0

/-- The field with a name after an edit. -/
def fieldAfter? (d : Definition) (name : String) : Edit → Option Field
  | pushField field =>
    if name = field.name ∧ name ∉ d.layout.fields.map (·.name) then some field
    else d.layout.field? name
  | insertField index field =>
    if name = field.name ∧ name ∉ (d.layout.fields.take index).map (·.name) then some field
    else d.layout.field? name
  | popField =>
    if d.layout.fields.getLast?.map (·.name) = some name ∧
        name ∉ d.layout.fields.dropLast.map (·.name) then none
    else d.layout.field? name
  | _ => d.layout.field? name

def idFieldNameAfter (d : Definition) : Edit → String
  | setIdField name => name
  | _ => d.header.idFieldName

/-- The label of an id after an edit. Without an enumeration there is no place for a value. -/
def labelAfter? (d : Definition) (id : UInt64) : Edit → Option String
  | setEnumeration enumeration? => enumeration?.bind (·.label? id)
  | pushValue value =>
    if id = value.id ∧ d.enumeration?.isSome ∧ d.label? id = none then some value.name
    else d.label? id
  | _ => d.label? id

/-- What an edit makes of the answers of a definition. The width in words follows the exact one as long
as this fits. -/
structure Effect (edit : Edit) (d d' : Definition) : Prop where
  totalBits : exactWidth d.layout.fields < UInt64.size → exactWidth d'.layout.fields < UInt64.size →
    (d'.layout.totalBits.toNat : Int) = d.layout.totalBits.toNat + edit.widthChange d
  field : ∀ name, d'.layout.field? name = edit.fieldAfter? d name
  idField : d'.idField? = d'.layout.field? d'.header.idFieldName ∧
    d'.idField? = edit.fieldAfter? d (edit.idFieldNameAfter d)
  label : ∀ id, d'.label? id = edit.labelAfter? d id
  others : d'.protocol = d.protocol ∧ d'.layout.name = d.layout.name ∧
    d'.header = ⟨d.header.name, edit.idFieldNameAfter d⟩

variable {d : Definition} {edit : Edit}

theorem apply_setByteOrder (d : Definition) (token : String) :
    apply d (.setByteOrder token) =
      d.withByteOrder ((ByteOrder.ofToken? token).getD d.layout.byteOrder) := by
  change (d.setByteOrder token).toOption.getD d = _
  unfold Definition.setByteOrder ByteOrder.ofText
  cases ByteOrder.ofToken? token <;> rfl

theorem exactWidth_apply (d : Definition) (edit : Edit) :
    (exactWidth (edit.apply d).layout.fields : Int) =
      exactWidth d.layout.fields + edit.widthChange d := by
  cases edit with
  | pushField field =>
    change (exactWidth (d.layout.fields ++ [field]) : Int) = _ + field.bits.toNat
    rw [exactWidth_append]
    simp [exactWidth]
  | insertField index field =>
    change (exactWidth (d.layout.fields.take index ++ field :: d.layout.fields.drop index) : Int) =
      _ + field.bits.toNat
    have whole := exactWidth_append (d.layout.fields.take index) (d.layout.fields.drop index)
    rw [List.take_append_drop] at whole
    rw [exactWidth_append, exactWidth]
    omega
  | popField =>
    change (exactWidth d.layout.fields.dropLast : Int) = _ +
      -(d.layout.fields.getLast?.elim 0 fun last => (last.bits.toNat : Int))
    cases found : d.layout.fields.getLast? with
    | none =>
      rw [List.getLast?_eq_none_iff.mp found]
      rfl
    | some last =>
      obtain ⟨before, same⟩ := List.getLast?_eq_some_iff.mp found
      rw [same, List.dropLast_concat, exactWidth_append, Option.elim_some, exactWidth, exactWidth]
      omega
  | setByteOrder token =>
    rw [apply_setByteOrder]
    exact (Int.add_zero _).symm
  | _ => exact (Int.add_zero _).symm

theorem field?_apply (d : Definition) (edit : Edit) (name : String) :
    (edit.apply d).layout.field? name = edit.fieldAfter? d name := by
  cases edit with
  | pushField field => exact find?_key_concat d.layout.fields field
  | insertField index field =>
    have found := @find?_key_insert _ _ _ Field.name name (d.layout.fields.take index)
      (d.layout.fields.drop index) field
    rw [List.take_append_drop] at found
    exact found
  | popField => exact find?_key_dropLast d.layout.fields
  | setByteOrder token =>
    rw [apply_setByteOrder]
    rfl
  | _ => rfl

theorem others_apply (d : Definition) (edit : Edit) :
    (edit.apply d).protocol = d.protocol ∧ (edit.apply d).layout.name = d.layout.name ∧
      (edit.apply d).header = ⟨d.header.name, edit.idFieldNameAfter d⟩ := by
  cases edit with
  | setByteOrder token =>
    rw [apply_setByteOrder]
    exact ⟨rfl, rfl, rfl⟩
  | _ => exact ⟨rfl, rfl, rfl⟩

theorem label?_pushValue (d : Definition) (value : EnumValue) (id : UInt64) :
    (d.pushValue value).label? id = labelAfter? d id (.pushValue value) := by
  unfold labelAfter? Definition.label? Definition.pushValue
  cases d.enumeration? with
  | none => simp
  | some enumeration =>
    have absent : enumeration.label? id = none ↔ id ∉ enumeration.values.map (·.id) := by
      rw [Enumeration.label?, Option.map_eq_none_iff, find?_key_eq_none_iff]
    simp only [Option.map_some, Option.bind_some, Option.isSome_some, true_and, absent]
    rw [Enumeration.label?, find?_key_concat, apply_ite (Option.map fun v : EnumValue => v.name)]
    rfl

theorem label?_apply (d : Definition) (edit : Edit) (id : UInt64) :
    (edit.apply d).label? id = edit.labelAfter? d id := by
  cases edit with
  | pushValue value => exact label?_pushValue d value id
  | setByteOrder token =>
    rw [apply_setByteOrder]
    rfl
  | _ => rfl

theorem effect_apply (d : Definition) (edit : Edit) : edit.Effect d (edit.apply d) where
  totalBits fits fits' := by
    rw [toNat_totalBits fits, toNat_totalBits fits', exactWidth_apply]
  field := field?_apply d edit
  idField := by
    obtain ⟨_, _, header⟩ := others_apply d edit
    refine ⟨rfl, ?_⟩
    rw [Definition.idField?, field?_apply, header]
  label := label?_apply d edit
  others := others_apply d edit

theorem applyAll_concat (d : Definition) (edits : List Edit) (edit : Edit) :
    applyAll d (edits ++ [edit]) = edit.apply (applyAll d edits) := by
  rw [applyAll, List.foldl_append]
  rfl

/-- The bits that the edits of a session add, each to what the edits before it have left. -/
def widthChanges (d : Definition) : List Edit → Int
  | [] => 0
  | edit :: edits => edit.widthChange d + widthChanges (edit.apply d) edits

theorem exactWidth_applyAll (d : Definition) (edits : List Edit) :
    (exactWidth (applyAll d edits).layout.fields : Int) =
      exactWidth d.layout.fields + widthChanges d edits := by
  induction edits generalizing d with
  | nil => exact (Int.add_zero _).symm
  | cons edit edits ih =>
    calc (exactWidth (applyAll d (edit :: edits)).layout.fields : Int)
      _ = exactWidth (edit.apply d).layout.fields + widthChanges (edit.apply d) edits :=
        ih (edit.apply d)
      _ = exactWidth d.layout.fields + (edit.widthChange d + widthChanges (edit.apply d) edits) := by
        rw [exactWidth_apply, Int.add_assoc]

/-- A label stays until another enumeration is set: values are only added after it. -/
theorem label?_applyAll_of_some {d : Definition} {edits : List Edit} {id : UInt64} {label : String}
    (kept : ∀ enumeration?, .setEnumeration enumeration? ∉ edits) (labelled : d.label? id = some label) :
    (applyAll d edits).label? id = some label := by
  induction edits generalizing d with
  | nil => exact labelled
  | cons edit edits ih =>
    apply ih fun enumeration? later => kept enumeration? (List.mem_cons_of_mem edit later)
    rw [label?_apply]
    cases edit with
    | setEnumeration enumeration? => exact absurd List.mem_cons_self (kept enumeration?)
    | pushValue value => exact (if_neg (by simp [labelled])).trans labelled
    | _ => exact labelled

theorem apply_of_rejected {token : String} {e : ValueError} (rejected : ByteOrder.ofText token = .error e)
    (d : Definition) : apply d (.setByteOrder token) = d := by
  change (d.setByteOrder token).toOption.getD d = d
  rw [Definition.setByteOrder, rejected]
  rfl

theorem applyAll_push_pop (d : Definition) (field : Field) :
    applyAll d [.pushField field, .popField] = d := by
  change d.withFields (d.layout.fields ++ [field]).dropLast = d
  rw [List.dropLast_concat]
  rfl

/-- At every point of every session the next edit has its effect on the answers, and no other. So the
width of a session is that of its start and what its edits add, a label stays as long as no other
enumeration is set, a token that is refused changes nothing, and a field that is pushed and popped
leaves no trace. -/
theorem session_by_effects (d : Definition) :
    (∀ before edit, Effect edit (applyAll d before) (applyAll d (before ++ [edit]))) ∧
    (∀ edits, exactWidth d.layout.fields < UInt64.size →
      exactWidth (applyAll d edits).layout.fields < UInt64.size →
      ((applyAll d edits).layout.totalBits.toNat : Int) =
        d.layout.totalBits.toNat + widthChanges d edits) ∧
    (∀ before edits id label, (∀ enumeration?, .setEnumeration enumeration? ∉ edits) →
      (applyAll d before).label? id = some label →
      (applyAll d (before ++ edits)).label? id = some label) ∧
    (∀ before token e, ByteOrder.ofText token = .error e →
      applyAll d (before ++ [.setByteOrder token]) = applyAll d before) ∧
    (∀ before field, applyAll d (before ++ [.pushField field, .popField]) = applyAll d before) := by
  have split (before edits : List Edit) :
      applyAll d (before ++ edits) = applyAll (applyAll d before) edits := List.foldl_append
  refine ⟨?_, ?_, ?_, ?_, ?_⟩
  · intro before edit
    rw [applyAll_concat]
    exact effect_apply _ edit
  · intro edits fits fits'
    rw [toNat_totalBits fits, toNat_totalBits fits', exactWidth_applyAll]
  · intro before edits id label kept labelled
    rw [split]
    exact label?_applyAll_of_some kept labelled
  · intro before token e rejected
    rw [applyAll_concat, apply_of_rejected rejected]
  · intro before field
    rw [split, applyAll_push_pop]

/-- A field that hides the one with its name, also after that one is gone, and a value that does not get
at the label of its id. -/
theorem session_with_hidden_field :
    let kind : Field := ⟨"kind", "uint8", 8⟩
    let wide : Field := ⟨"kind", "uint16", 16⟩
    let d : Definition := ⟨⟨"p", "p"⟩, ⟨"s", .bigEndian, [kind]⟩, ⟨"h", "kind"⟩,
      some ⟨"e", [⟨100, "Hello"⟩]⟩⟩
    let edits : List Edit := [.pushValue ⟨100, "Bye"⟩, .insertField 0 wide]
    let d' := Edit.applyAll d edits
    d.idField? = some kind ∧ d'.idField? = some wide ∧
      (Edit.applyAll d (edits ++ [.popField])).idField? = some wide ∧
      d'.layout.totalBits.toNat = 24 ∧ d'.label? 100 = some "Hello" ∧
      Edit.applyAll d (edits ++ [.setByteOrder "host"]) = d' ∧
      Edit.applyAll d (edits ++ [.pushField kind, .popField]) = d' := by
  intro kind wide d edits d'
  obtain ⟨effects, widths, labels, refused, popped⟩ := session_by_effects d
  have hidden : d'.idField? = some wide :=
    (effects [.pushValue ⟨100, "Bye"⟩] (.insertField 0 wide)).idField.2.trans (by decide +kernel)
  have stays : (Edit.applyAll d (edits ++ [.popField])).idField? = some wide :=
    (effects edits .popField).idField.2.trans (by decide +kernel)
  have width := widths edits (by decide) (by decide)
  have sum : (d.layout.totalBits.toNat : Int) + widthChanges d edits = 24 := by decide +kernel
  refine ⟨by decide +kernel, hidden, stays, Int.ofNat_inj.mp (width.trans sum), ?_, ?_,
    popped edits kind⟩
  · exact labels [] edits 100 "Hello" (by simp [edits]) (by decide +kernel)
  · exact refused edits "host" (.unknownByteOrder "host") rfl

end Edit

end WireSchema
