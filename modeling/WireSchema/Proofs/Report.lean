import WireSchema.Definition.Report
import WireSchema.Proofs.Text.Quoted

/-!
Reports tell definitions apart. Every part of a report is self-delimiting as long as the names that it
shows without quotation marks have no spaces and the labels no line feeds, so nothing else that a name
may hold, be it a colon, a bracket or a line feed, passes for a part of another kind.
-/
namespace WireSchema
open Text

structure Field.Unspaced (field : Field) : Prop where
  name : ' ' ∉ field.name.toList
  typeName : ' ' ∉ field.typeName.toList

structure Enumeration.Unspaced (enumeration : Enumeration) : Prop where
  name : ' ' ∉ enumeration.name.toList
  labels : ∀ value ∈ enumeration.values, '\n' ∉ value.name.toList

/-- The names shown without quotation marks have no spaces, and the labels no line feeds. -/
structure Definition.Unspaced (d : Definition) : Prop where
  layoutName : ' ' ∉ d.layout.name.toList
  fields : ∀ field ∈ d.layout.fields, field.Unspaced
  headerName : ' ' ∉ d.header.name.toList
  idFieldName : ' ' ∉ d.header.idFieldName.toList
  enumeration : ∀ enumeration ∈ d.enumeration?, enumeration.Unspaced

instance (field : Field) : Decidable field.Unspaced :=
  decidable_of_iff (' ' ∉ field.name.toList ∧ ' ' ∉ field.typeName.toList)
    ⟨fun h => ⟨h.1, h.2⟩, fun h => ⟨h.name, h.typeName⟩⟩

instance (enumeration : Enumeration) : Decidable enumeration.Unspaced :=
  decidable_of_iff
    (' ' ∉ enumeration.name.toList ∧ ∀ value ∈ enumeration.values, '\n' ∉ value.name.toList)
    ⟨fun h => ⟨h.1, h.2⟩, fun h => ⟨h.name, h.labels⟩⟩

instance (d : Definition) : Decidable d.Unspaced :=
  decidable_of_iff
    (' ' ∉ d.layout.name.toList ∧ (∀ field ∈ d.layout.fields, field.Unspaced) ∧
      ' ' ∉ d.header.name.toList ∧ ' ' ∉ d.header.idFieldName.toList ∧
      ∀ enumeration ∈ d.enumeration?, enumeration.Unspaced)
    ⟨fun h => ⟨h.1, h.2.1, h.2.2.1, h.2.2.2.1, h.2.2.2.2⟩,
      fun h => ⟨h.layoutName, h.fields, h.headerName, h.idFieldName, h.enumeration⟩⟩

variable {x y : List Char}

/-- The characters of lines, each with its line feed. -/
def lineChars (lines : List String) : List Char := lines.flatMap fun line => line.toList ++ ['\n']

theorem toList_unlines (lines : List String) : (unlines lines).toList = lineChars lines := by
  rw [unlines, String.toList_join, List.flatMap_map]
  simp [lineChars]

theorem lineChars_cons_append (line : String) (lines : List String) (rest : List Char) :
    lineChars (line :: lines) ++ rest = line.toList ++ '\n' :: (lineChars lines ++ rest) := by
  simp [lineChars]

theorem ByteOrder.token_append_inj {a b : ByteOrder}
    (same : a.token.toList ++ ']' :: x = b.token.toList ++ ']' :: y) : a = b ∧ x = y := by
  have free (order : ByteOrder) : ']' ∉ order.token.toList := by cases order <;> decide
  obtain ⟨tokens, rest⟩ := until_append_inj (free a) (free b) same
  have read := ofToken?_eq_some_iff.mpr (String.toList_inj.mp tokens)
  rw [ofToken?_eq_some_iff.mpr rfl] at read
  exact ⟨Option.some.inj read, rest⟩

theorem Definition.protocolLine_append_inj {d e : Definition}
    (same : d.protocolLine.toList ++ '\n' :: x = e.protocolLine.toList ++ '\n' :: y) :
    d.protocol = e.protocol ∧ x = y := by
  unfold protocolLine at same
  simp only [String.toList_append, String.reduceToList, List.append_assoc] at same
  obtain ⟨names, same⟩ := quote_append_inj (List.append_cancel_left same)
  obtain ⟨shortNames, same⟩ := quote_append_inj (List.append_cancel_left same)
  exact ⟨Protocol.ext names shortNames, (List.cons.inj (List.append_cancel_left same)).2⟩

theorem Definition.layoutLine_append_inj {d e : Definition} (hd : d.Unspaced) (he : e.Unspaced)
    (same : d.layoutLine.toList ++ '\n' :: x = e.layoutLine.toList ++ '\n' :: y) :
    d.layout.name = e.layout.name ∧ d.layout.byteOrder = e.layout.byteOrder ∧
      d.layout.fields.length = e.layout.fields.length ∧ x = y := by
  unfold layoutLine at same
  simp only [String.toList_append, String.reduceToList, List.append_assoc, List.cons_append,
    List.nil_append, List.cons.injEq, true_and] at same
  obtain ⟨names, same⟩ := until_append_inj hd.layoutName he.layoutName same
  obtain ⟨orders, same⟩ := ByteOrder.token_append_inj (List.cons.inj same).2
  obtain ⟨counts, same⟩ := decimal_cons_inj (by decide) (List.cons.inj same).2
  simp only [List.cons.injEq, true_and] at same
  obtain ⟨_, same⟩ := decimal_cons_inj (by decide) same
  simp only [List.cons.injEq, true_and] at same
  exact ⟨String.toList_inj.mp names, orders, counts, same⟩

theorem toList_padded_append (width : Nat) (s : String) (rest : List Char) :
    (padded width s).toList ++ ' ' :: rest =
      s.toList ++ ' ' :: (List.replicate (width - s.length) ' ' ++ rest) := by
  have spaces (n : Nat) :
      List.replicate n ' ' ++ ' ' :: rest = ' ' :: (List.replicate n ' ' ++ rest) := by
    rw [← List.cons_append, ← List.replicate_succ, List.replicate_succ', List.append_assoc,
      List.singleton_append]
  rw [padded, String.toList_append, String.toList_ofList, List.append_assoc, spaces]

/-- A name ends with the colon before the first space, whatever colons are in it. -/
theorem Field.report_append_inj {f g : Field} {i j : UInt64} (hf : f.Unspaced) (hg : g.Unspaced)
    (same : (f.report i).toList ++ '\n' :: x = (g.report j).toList ++ '\n' :: y) :
    i = j ∧ f = g ∧ x = y := by
  have free {name : String} (h : ' ' ∉ name.toList) : ' ' ∉ name.toList ++ [':'] := by simp [h]
  unfold report at same
  simp only [String.toList_append, String.reduceToList, List.append_assoc, List.cons_append,
    List.nil_append, List.cons.injEq, true_and, toList_padded_append] at same
  obtain ⟨offsets, same⟩ := decimal_cons_inj (by decide) same
  rw [offsets] at same
  replace same := List.append_cancel_left same
  rw [List.append_cons, List.append_cons g.name.toList] at same
  obtain ⟨names, same⟩ := until_append_inj (free hf.name) (free hg.name) same
  obtain ⟨types, same⟩ := until_append_inj hf.typeName hg.typeName same
  obtain ⟨bits, same⟩ := decimal_cons_inj (by decide) (List.cons.inj same).2
  simp only [List.cons.injEq, true_and] at same
  refine ⟨UInt64.toNat_inj.mp offsets, ?_, same⟩
  apply Field.ext
  · exact String.toList_inj.mp (List.append_cancel_right names)
  · exact String.toList_inj.mp types
  · exact UInt32.toNat_inj.mp bits

theorem EnumValue.report_append_inj {v w : EnumValue} (hv : '\n' ∉ v.name.toList)
    (hw : '\n' ∉ w.name.toList)
    (same : v.report.toList ++ '\n' :: x = w.report.toList ++ '\n' :: y) : v = w ∧ x = y := by
  unfold report at same
  simp only [String.toList_append, String.reduceToList, List.append_assoc, List.cons_append,
    List.nil_append] at same
  obtain ⟨ids, same⟩ := hexadecimal_cons_inj (by decide) same
  obtain ⟨_, same⟩ := decimal_cons_inj (by decide) (List.cons.inj same).2
  simp only [List.cons.injEq, true_and] at same
  obtain ⟨names, same⟩ := until_append_inj hv hw same
  exact ⟨EnumValue.ext (UInt64.toNat_inj.mp ids) (String.toList_inj.mp names), same⟩

/-- Lines of the same number, each of which tells its item, tell all items. -/
theorem lineChars_map_append_inj {α : Type} {line : α → String} {as bs : List α}
    (count : as.length = bs.length)
    (each : ∀ a ∈ as, ∀ b ∈ bs, ∀ x y : List Char,
      (line a).toList ++ '\n' :: x = (line b).toList ++ '\n' :: y → a = b ∧ x = y)
    (same : lineChars (as.map line) ++ x = lineChars (bs.map line) ++ y) : as = bs ∧ x = y := by
  induction as generalizing bs with
  | nil =>
    cases bs with
    | nil => exact ⟨rfl, same⟩
    | cons b bs => cases count
  | cons a as ih =>
    cases bs with
    | nil => cases count
    | cons b bs =>
      rw [List.map_cons, List.map_cons, lineChars_cons_append, lineChars_cons_append] at same
      obtain ⟨rfl, lines⟩ := each a List.mem_cons_self b List.mem_cons_self _ _ same
      have later : ∀ a ∈ as, ∀ b ∈ bs, ∀ x y : List Char,
          (line a).toList ++ '\n' :: x = (line b).toList ++ '\n' :: y → a = b ∧ x = y := by
        intro a ha b hb
        exact each a (List.mem_cons_of_mem _ ha) b (List.mem_cons_of_mem _ hb)
      obtain ⟨rfl, rest⟩ := ih (Nat.succ.inj count) later lines
      exact ⟨rfl, rest⟩

theorem Definition.fieldLines_append_inj {d e : Definition} (hd : d.Unspaced) (he : e.Unspaced)
    (count : d.layout.fields.length = e.layout.fields.length)
    (same : lineChars d.fieldLines ++ x = lineChars e.fieldLines ++ y) :
    d.layout.fields = e.layout.fields ∧ x = y := by
  have unspaced {d : Definition} (h : d.Unspaced) : ∀ pair ∈ d.layout.placed, pair.2.Unspaced := by
    intro pair member
    apply h.fields
    rw [← Layout.placed_map_snd]
    exact List.mem_map_of_mem member
  have lengths : d.layout.placed.length = e.layout.placed.length := by
    rw [← List.length_map (·.2), Layout.placed_map_snd, count, ← Layout.placed_map_snd,
      List.length_map]
  have each : ∀ a ∈ d.layout.placed, ∀ b ∈ e.layout.placed, ∀ x y : List Char,
      ("    " ++ a.2.report a.1).toList ++ '\n' :: x = ("    " ++ b.2.report b.1).toList ++ '\n' :: y →
        a = b ∧ x = y := by
    intro a ha b hb x y line
    rw [String.toList_append, String.toList_append, List.append_assoc, List.append_assoc] at line
    obtain ⟨offsets, fields, rest⟩ := Field.report_append_inj (unspaced hd a ha) (unspaced he b hb)
      (List.append_cancel_left line)
    exact ⟨Prod.ext offsets fields, rest⟩
  obtain ⟨placed, rest⟩ := lineChars_map_append_inj lengths each same
  rw [← Layout.placed_map_snd, placed, Layout.placed_map_snd]
  exact ⟨rfl, rest⟩

/-- What stands after the name of the id field: the field that it names, if the layout has it. -/
def idFieldNote : Option Field → String
  | some field => "(" ++ field.typeName ++ ", " ++ decimal field.bits.toNat ++ " bits)"
  | none => "(not a structure field)"

theorem Definition.idFieldText_eq (d : Definition) :
    d.idFieldText = d.header.idFieldName ++ " " ++ idFieldNote d.idField? := by
  unfold idFieldText
  cases found : d.idField? with
  | none => simp [idFieldNote, ← String.toList_inj]
  | some field =>
    have named : field.name = d.header.idFieldName := by simpa using List.find?_some found
    simp [idFieldNote, named, ← String.toList_inj]

theorem Definition.headerLine_append_inj {d e : Definition} (hd : d.Unspaced) (he : e.Unspaced)
    (layouts : d.layout = e.layout)
    (same : d.headerLine.toList ++ '\n' :: x = e.headerLine.toList ++ '\n' :: y) :
    d.header = e.header ∧ x = y := by
  unfold headerLine at same
  simp only [idFieldText_eq, String.toList_append, String.reduceToList, List.append_assoc,
    List.cons_append, List.nil_append, List.cons.injEq, true_and] at same
  obtain ⟨names, same⟩ := until_append_inj hd.headerName he.headerName same
  simp only [List.cons.injEq, true_and] at same
  obtain ⟨idFieldNames, same⟩ := until_append_inj hd.idFieldName he.idFieldName same
  have headers : d.header = e.header :=
    Header.ext (String.toList_inj.mp names) (String.toList_inj.mp idFieldNames)
  have notes : d.idField? = e.idField? := by
    unfold idField?
    rw [layouts, headers]
  rw [notes] at same
  exact ⟨headers, (List.cons.inj (List.append_cancel_left same)).2⟩

theorem Enumeration.reportLines_inj {e f : Enumeration} (he : e.Unspaced) (hf : f.Unspaced)
    (same : lineChars e.reportLines = lineChars f.reportLines) : e = f := by
  have lines (e : Enumeration) : lineChars e.reportLines = e.headline.toList ++
      '\n' :: (lineChars (e.values.map fun value => "    " ++ value.report) ++ []) := by
    rw [← lineChars_cons_append, List.append_nil]
    rfl
  rw [lines, lines] at same
  unfold headline at same
  simp only [String.toList_append, String.reduceToList, List.append_assoc,
    List.cons_append, List.nil_append, List.cons.injEq, true_and] at same
  obtain ⟨names, same⟩ := until_append_inj he.name hf.name same
  obtain ⟨count, same⟩ := decimal_cons_inj (by decide) same
  simp only [List.cons.injEq, true_and] at same
  have each : ∀ v ∈ e.values, ∀ w ∈ f.values, ∀ x y : List Char,
      ("    " ++ v.report).toList ++ '\n' :: x = ("    " ++ w.report).toList ++ '\n' :: y →
        v = w ∧ x = y := by
    intro v hv w hw x y line
    rw [String.toList_append, String.toList_append, List.append_assoc, List.append_assoc] at line
    exact EnumValue.report_append_inj (he.labels v hv) (hf.labels w hw)
      (List.append_cancel_left line)
  obtain ⟨values, _⟩ := lineChars_map_append_inj count each same
  exact Enumeration.ext (String.toList_inj.mp names) values

theorem Definition.enumerationLines_inj {d e : Definition} (hd : d.Unspaced) (he : e.Unspaced)
    (same : lineChars d.enumerationLines = lineChars e.enumerationLines) :
    d.enumeration? = e.enumeration? := by
  have missing (f : Enumeration) : lineChars ["  enum: none"] ≠ lineChars f.reportLines := by
    simp [lineChars, Enumeration.reportLines, Enumeration.headline]
  unfold enumerationLines at same
  cases found : d.enumeration? with
  | none =>
    cases found' : e.enumeration? with
    | none => rfl
    | some f =>
      rw [found, found'] at same
      exact absurd same (missing f)
  | some f =>
    cases found' : e.enumeration? with
    | none =>
      rw [found, found'] at same
      exact absurd same.symm (missing f)
    | some g =>
      rw [found, found'] at same
      exact congrArg some
        (Enumeration.reportLines_inj (hd.enumeration f found) (he.enumeration g found') same)

theorem Definition.toList_report (d : Definition) :
    d.report.toList = d.protocolLine.toList ++ '\n' :: (d.layoutLine.toList ++ '\n' ::
      (lineChars d.fieldLines ++ (d.headerLine.toList ++ '\n' :: lineChars d.enumerationLines))) := by
  rw [report, toList_unlines, reportLines]
  simp [lineChars]

/-- The report tells definitions apart: two of them with the same report are the same, in all their
parts. -/
theorem Definition.report_eq_iff {d e : Definition} (hd : d.Unspaced) (he : e.Unspaced) :
    d.report = e.report ↔ d = e := by
  constructor
  · intro same
    rw [← String.toList_inj, toList_report, toList_report] at same
    obtain ⟨protocols, same⟩ := protocolLine_append_inj same
    obtain ⟨names, orders, count, same⟩ := layoutLine_append_inj hd he same
    obtain ⟨fields, same⟩ := fieldLines_append_inj hd he count same
    have layouts : d.layout = e.layout := Layout.ext names orders fields
    obtain ⟨headers, same⟩ := headerLine_append_inj hd he layouts same
    exact Definition.ext protocols layouts headers (enumerationLines_inj hd he same)
  · rintro rfl
    rfl

/-- Names with colons, brackets and line feeds, and an enumeration that is missing or empty. -/
theorem reports_of_missing_and_empty_enumeration :
    let d : Definition := ⟨⟨"", "\"\n"⟩, ⟨"s[]", .asHost, [⟨"a:", "b(", 8⟩, ⟨"\n", "", 0⟩]⟩,
      ⟨"h=id", "a:"⟩, none⟩
    let e : Definition := { d with enumeration? := some ⟨":none", []⟩ }
    d.Unspaced ∧ e.Unspaced ∧ d.report ≠ e.report := by
  intro d e
  have hd : d.Unspaced := by decide +kernel
  have he : e.Unspaced := by decide +kernel
  refine ⟨hd, he, ?_⟩
  rw [ne_eq, Definition.report_eq_iff hd he]
  decide +kernel

end WireSchema
