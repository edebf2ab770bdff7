import Mathlib.Data.List.Forall2
import WireSchema.Definition.Parse
import WireSchema.Proofs.Report

/-!
The lines of a report. Every item has a line of its own, but only the names of the protocol are
quoted: every line feed in another name, in a type or in a label starts one more line, which may look
like that of any item.
-/
namespace WireSchema
open Text

def lineFeeds (s : String) : Nat := s.toList.count '\n'

/-- The lines of a text in which every line, the last one too, ends in a line feed. -/
structure ConsistsOf (text : String) (lines : List String) : Prop where
  joined : text = unlines lines
  unbroken : ∀ line ∈ lines, lineFeeds line = 0

section
variable {s t : String} {lines : List String}

@[simp] theorem lineFeeds_append (s t : String) : lineFeeds (s ++ t) = lineFeeds s + lineFeeds t := by
  simp [lineFeeds]

theorem lineFeeds_eq_zero_iff : lineFeeds s = 0 ↔ '\n' ∉ s.toList := List.count_eq_zero

theorem lineFeeds_join_cons (s : String) (lines : List String) :
    lineFeeds (String.join (s :: lines)) = lineFeeds s + lineFeeds (String.join lines) := by
  simp [lineFeeds]

theorem lineFeeds_join_append (lines more : List String) :
    lineFeeds (String.join (lines ++ more)) =
      lineFeeds (String.join lines) + lineFeeds (String.join more) := by
  simp [lineFeeds]

theorem lineFeeds_join_eq_zero_iff :
    lineFeeds (String.join lines) = 0 ↔ ∀ line ∈ lines, lineFeeds line = 0 := by
  induction lines with
  | nil => simp [lineFeeds]
  | cons line lines ih => rw [lineFeeds_join_cons, Nat.add_eq_zero_iff, ih, List.forall_mem_cons]

theorem lineFeeds_join_map {α : Type} {as : List α} {f g : α → String}
    (same : ∀ a, lineFeeds (f a) = lineFeeds (g a)) :
    lineFeeds (String.join (as.map f)) = lineFeeds (String.join (as.map g)) := by
  induction as with
  | nil => rfl
  | cons a as ih =>
    rw [List.map_cons, List.map_cons, lineFeeds_join_cons, lineFeeds_join_cons, ih, same]

theorem lineFeeds_unlines (lines : List String) :
    lineFeeds (unlines lines) = lines.length + lineFeeds (String.join lines) := by
  induction lines with
  | nil => rfl
  | cons line lines ih =>
    unfold unlines at ih ⊢
    rw [List.map_cons, lineFeeds_join_cons, ih, lineFeeds_append, lineFeeds_join_cons,
      List.length_cons]
    change lineFeeds line + 1 + _ = _
    omega

theorem unlines_cons (line : String) (lines : List String) :
    unlines (line :: lines) = line ++ "\n" ++ unlines lines := by
  simp [unlines]

theorem unlines_append (lines more : List String) :
    unlines (lines ++ more) = unlines lines ++ unlines more := by
  simp [unlines]

theorem ConsistsOf.length_eq (h : ConsistsOf t lines) : lines.length = lineFeeds t := by
  rw [h.joined, lineFeeds_unlines, lineFeeds_join_eq_zero_iff.mpr h.unbroken, Nat.add_zero]

theorem consistsOf_unlines_iff :
    ConsistsOf (unlines lines) lines ↔ lineFeeds (String.join lines) = 0 := by
  rw [lineFeeds_join_eq_zero_iff]
  exact ⟨fun h => h.unbroken, fun h => ⟨rfl, h⟩⟩

theorem lineChars_inj {more : List String} (unbroken : ∀ line ∈ lines, lineFeeds line = 0)
    (unbroken' : ∀ line ∈ more, lineFeeds line = 0) (same : lineChars lines = lineChars more) :
    lines = more := by
  induction lines generalizing more with
  | nil =>
    cases more with
    | nil => rfl
    | cons line more => simp [lineChars] at same
  | cons line lines ih =>
    cases more with
    | nil => simp [lineChars] at same
    | cons line' more =>
      obtain ⟨first, later⟩ := List.forall_mem_cons.mp unbroken
      obtain ⟨first', later'⟩ := List.forall_mem_cons.mp unbroken'
      rw [← List.append_nil (lineChars _), ← List.append_nil (lineChars (line' :: more)),
        lineChars_cons_append, lineChars_cons_append, List.append_nil, List.append_nil] at same
      obtain ⟨head, tail⟩ := until_append_inj (lineFeeds_eq_zero_iff.mp first)
        (lineFeeds_eq_zero_iff.mp first') same
      rw [String.toList_inj.mp head, ih later later' tail]

theorem ConsistsOf.unique {more : List String} (h : ConsistsOf t lines) (h' : ConsistsOf t more) :
    lines = more := by
  apply lineChars_inj h.unbroken h'.unbroken
  rw [← toList_unlines, ← toList_unlines, ← h.joined, h'.joined]

theorem ConsistsOf.append {more : List String} (h : ConsistsOf s lines) (h' : ConsistsOf t more) :
    ConsistsOf (s ++ t) (lines ++ more) where
  joined := by rw [unlines_append, ← h.joined, ← h'.joined]
  unbroken := List.forall_mem_append.mpr ⟨h.unbroken, h'.unbroken⟩

theorem exists_consistsOf_line (cs : List Char) :
    ∃ lines, ConsistsOf (String.ofList cs ++ "\n") lines := by
  have blank : ConsistsOf "\n" [""] := ⟨by decide, by decide⟩
  induction cs with
  | nil => exact ⟨[""], blank⟩
  | cons c cs ih =>
    obtain ⟨lines, h⟩ := ih
    have split : String.ofList (c :: cs) ++ "\n" =
        String.singleton c ++ (String.ofList cs ++ "\n") := by simp [← String.toList_inj]
    rw [split]
    by_cases feed : c = '\n'
    · rw [feed]
      exact ⟨_, blank.append h⟩
    · cases lines with
      | nil =>
        have short := congrArg lineFeeds h.joined
        simp [unlines, lineFeeds] at short
      | cons line lines =>
        obtain ⟨first, later⟩ := List.forall_mem_cons.mp h.unbroken
        refine ⟨(String.singleton c ++ line) :: lines, ?_, ?_⟩
        · rw [h.joined, unlines_cons, unlines_cons, String.append_assoc, String.append_assoc,
            String.append_assoc]
        · refine List.forall_mem_cons.mpr ⟨?_, later⟩
          rw [lineFeeds_append, first, Nat.add_zero, lineFeeds_eq_zero_iff]
          simpa using Ne.symm feed

theorem exists_consistsOf_unlines (items : List String) :
    ∃ lines, ConsistsOf (unlines items) lines := by
  induction items with
  | nil => exact ⟨[], rfl, by simp⟩
  | cons item items ih =>
    obtain ⟨lines, h⟩ := exists_consistsOf_line item.toList
    obtain ⟨more, h'⟩ := ih
    rw [String.ofList_toList] at h
    rw [unlines_cons]
    exact ⟨lines ++ more, h.append h'⟩

end

theorem count_toDigits {base : Nat} (large : 1 < base) (bound : base ≤ 16) (n : Nat) :
    (Nat.toDigits base n).count '\n' = 0 := by
  rw [List.count_eq_zero]
  intro feed
  have digit := (denotes_toDigits large bound n).isSome '\n' feed
  simp [digit?] at digit

@[simp] theorem count_decimal (n : Nat) : (decimal n).toList.count '\n' = 0 := by
  rw [decimal, String.toList_ofList, count_toDigits (by decide) (by decide)]

@[simp] theorem count_hexadecimal (n : Nat) : (hexadecimal n).toList.count '\n' = 0 := by
  rw [hexadecimal, String.toList_ofList]
  simp [count_toDigits]

@[simp] theorem count_padded (width : Nat) (s : String) :
    (padded width s).toList.count '\n' = s.toList.count '\n' := by
  simp [padded, List.count_replicate]

@[simp] theorem count_token (order : ByteOrder) : order.token.toList.count '\n' = 0 := by
  cases order <;> decide

theorem count_escape (c : Char) : (escape '"' c).count '\n' = 0 := by
  rw [List.count_eq_zero]
  unfold escape
  split
  next mark => rw [mark]; decide
  next =>
    split
    next => decide
    next => decide
    next => decide
    next => decide
    next => decide
    next feed _ _ =>
      split
      next =>
        have digits := count_toDigits (show 1 < 16 by decide) (Nat.le_refl 16) c.toNat
        simp [codePointEscape, List.count_eq_zero.mp digits]
      next => simpa using Ne.symm feed

@[simp] theorem count_quote (s : String) : (quote s).toList.count '\n' = 0 := by
  rw [quote, String.toList_ofList, quoteChars, List.count_eq_zero]
  have body : '\n' ∉ s.toList.flatMap (escape '"') := by
    rw [List.mem_flatMap]
    rintro ⟨c, _, feed⟩
    exact List.count_eq_zero.mp (count_escape c) feed
  simp [body]

namespace Definition

/-- The texts that a report shows as they are, once for each place. -/
def unquotedTexts (d : Definition) : List String :=
  [d.layout.name] ++ d.layout.fields.flatMap (fun field => [field.name, field.typeName]) ++
    [d.header.name, d.header.idFieldName] ++ (d.idField?.map (·.typeName)).toList ++
    d.enumeration?.elim [] fun enumeration =>
      enumeration.name :: enumeration.values.map (·.name)

theorem lineFeeds_fieldLines (d : Definition) :
    lineFeeds (String.join d.fieldLines) = lineFeeds (String.join
      (d.layout.fields.flatMap fun field => [field.name, field.typeName])) := by
  have texts (fields : List Field) :
      String.join (fields.map fun field => field.name ++ field.typeName) =
        String.join (fields.flatMap fun field => [field.name, field.typeName]) := by
    simp [← String.toList_inj, List.flatMap_map, List.flatMap_assoc]
  calc
    _ = lineFeeds (String.join (d.layout.placed.map fun p => p.2.name ++ p.2.typeName)) := by
      apply lineFeeds_join_map
      rintro ⟨offset, field⟩
      simp [Field.report, lineFeeds]
    _ = _ := by
      rw [← texts, ← d.layout.placed_map_snd, List.map_map]
      rfl

theorem lineFeeds_headerLine (d : Definition) :
    lineFeeds d.headerLine = lineFeeds (String.join
      ([d.header.name, d.header.idFieldName] ++ (d.idField?.map (·.typeName)).toList)) := by
  -- The id field shows the name that the header gives, so only its type may add to the line feeds.
  rw [headerLine, idFieldText_eq]
  cases d.idField? <;> simp [idFieldNote, lineFeeds]

theorem lineFeeds_enumerationLines (d : Definition) :
    lineFeeds (String.join d.enumerationLines) = lineFeeds (String.join
      (d.enumeration?.elim [] fun enumeration =>
        enumeration.name :: enumeration.values.map (·.name))) := by
  unfold enumerationLines
  cases d.enumeration? with
  | none => decide
  | some enumeration =>
    dsimp only [Option.elim_some, Enumeration.reportLines]
    rw [lineFeeds_join_cons, lineFeeds_join_cons]
    congr 1
    · simp [Enumeration.headline, lineFeeds]
    · apply lineFeeds_join_map
      intro value
      simp [EnumValue.report, lineFeeds]

theorem lineFeeds_reportLines (d : Definition) :
    lineFeeds (String.join d.reportLines) = lineFeeds (String.join d.unquotedTexts) := by
  have protocol : lineFeeds d.protocolLine = 0 := by simp [protocolLine, lineFeeds]
  have layout : lineFeeds d.layoutLine = lineFeeds d.layout.name := by
    unfold layoutLine
    generalize d.layout.totalBits.toNat = bits
    simp [lineFeeds]
  simp only [reportLines, unquotedTexts, lineFeeds_join_append, lineFeeds_fieldLines,
    lineFeeds_enumerationLines, lineFeeds_join_cons, lineFeeds_headerLine, protocol, layout]
  have empty : lineFeeds (String.join []) = 0 := rfl
  omega

theorem consistsOf_reportLines_iff (d : Definition) :
    ConsistsOf d.report d.reportLines ↔ ∀ text ∈ d.unquotedTexts, '\n' ∉ text.toList := by
  rw [report, consistsOf_unlines_iff, lineFeeds_reportLines, lineFeeds_join_eq_zero_iff]
  simp only [lineFeeds_eq_zero_iff]

def values (d : Definition) : List EnumValue := d.enumeration?.elim [] (·.values)

theorem enumerationLines_eq (d : Definition) :
    d.enumerationLines = d.enumeration?.elim "  enum: none" (·.headline) ::
      d.values.map fun value => "    " ++ value.report := by
  unfold enumerationLines values
  cases d.enumeration? <;> rfl

theorem fieldLines_of_fields (d : Definition) :
    List.Forall₂ (fun field line => ∃ offset, line = "    " ++ field.report offset)
      d.layout.fields d.fieldLines := by
  rw [← d.layout.placed_map_snd, fieldLines, List.forall₂_map_left_iff,
    List.forall₂_map_right_iff, List.forall₂_same]
  exact fun p _ => ⟨p.1, rfl⟩

theorem length_reportLines (d : Definition) :
    d.reportLines.length = 4 + d.layout.fields.length + d.values.length := by
  have fields := d.fieldLines_of_fields.length_eq
  rw [reportLines, enumerationLines_eq]
  simp only [List.length_append, List.length_cons, List.length_nil, List.length_map, ← fields]
  omega

/-- A report is lines in one way, with one for each of its items and one more for each line feed in
the texts that it does not quote. The items have their lines, in order, if there are none. -/
theorem report_consistsOf_lines (d : Definition) :
    (∃ lines, (∀ others, ConsistsOf d.report others ↔ others = lines) ∧
      lines.length = 4 + d.layout.fields.length + d.values.length +
        lineFeeds (String.join d.unquotedTexts)) ∧
    ∃ fieldLines headline valueLines,
      List.Forall₂ (fun field line => ∃ offset, line = "    " ++ field.report offset)
        d.layout.fields fieldLines ∧
      headline = d.enumeration?.elim "  enum: none" (·.headline) ∧
      List.Forall₂ (fun value line => line = "    " ++ value.report) d.values valueLines ∧
      (ConsistsOf d.report
          ([d.protocolLine, d.layoutLine] ++ fieldLines ++ [d.headerLine] ++
            headline :: valueLines) ↔
        ∀ text ∈ d.unquotedTexts, '\n' ∉ text.toList) := by
  constructor
  · obtain ⟨lines, h⟩ := exists_consistsOf_unlines d.reportLines
    refine ⟨lines, fun others => ⟨fun h' => h'.unique h, fun same => same ▸ h⟩, ?_⟩
    rw [h.length_eq, lineFeeds_unlines, length_reportLines, lineFeeds_reportLines]
  · refine ⟨_, _, _, d.fieldLines_of_fields, rfl,
      List.forall₂_map_right_iff.mpr (List.forall₂_same.mpr fun _ _ => rfl), ?_⟩
    rw [← enumerationLines_eq]
    exact d.consistsOf_reportLines_iff

/-- A label with a line feed adds a line that looks like that of another value. -/
theorem report_with_one_line_too_many :
    let source := "<protocol><protocolname>p</protocolname><structure><name>s</name></structure>" ++
      "<header><name>h</name><id_field_name>a</id_field_name></header><enum><name>e</name>" ++
      "<values><value id=\"1\">a\n    0x2 (2) = b</value></values></enum></protocol>"
    let d : Definition := ⟨⟨"p", "p"⟩, ⟨"s", .bigEndian, []⟩, ⟨"h", "a"⟩,
      some ⟨"e", [⟨1, "a\n    0x2 (2) = b"⟩]⟩⟩
    let lines := ["protocol \"p\" (short \"p\")",
      "  structure s [big_endian] 0 field(s), 0 bit(s)", "  header h id=a (not a structure field)",
      "  enum e 1 value(s)", "    0x1 (1) = a", "    " ++ EnumValue.report ⟨2, "b"⟩]
    Definition.parse {} source = .ok d ∧ ConsistsOf d.report lines ∧
      ¬∃ others, ConsistsOf d.report others ∧
        others.length = 4 + d.layout.fields.length + d.values.length := by
  intro source d lines
  have six : ConsistsOf d.report lines := ⟨by decide +kernel, by decide +kernel⟩
  refine ⟨by decide +kernel, six, ?_⟩
  rintro ⟨others, h, count⟩
  rw [h.unique six] at count
  exact absurd count (by decide)

end Definition

end WireSchema
