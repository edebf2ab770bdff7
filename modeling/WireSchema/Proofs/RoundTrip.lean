import WireSchema.Proofs.Reading
import WireSchema.Proofs.ShortName
import WireSchema.Proofs.Written

/-!
Reading and writing. A reading gives clean definitions only, and every clean definition is the
reading of its own tree.
-/
namespace WireSchema
open Text Xml Xml.Node Agenda

theorem Field.clean_describedBy {node : Node} (kept : ∀ rule ∈ rules node, rule.holds = true) :
    (describedBy node).Clean := by
  simp only [rules, List.forall_mem_cons, decide_eq_true_eq] at kept
  obtain ⟨name, typeName, _, ⟨bits, denoted⟩, _⟩ := kept
  refine ⟨clean_trim name, clean_trim typeName, ?_⟩
  rw [describedBy, widthOfLiteral?_eq_some_iff.mpr denoted]
  exact denoted.1

theorem Layout.clean_describedBy {node : Node} (kept : ∀ rule ∈ rules node, rule.holds = true) :
    Clean (describedBy node).name ∧ ∀ field ∈ (describedBy node).fields, field.Clean := by
  obtain ⟨name, _, fields⟩ := forall_mem_rules.mp kept
  refine ⟨clean_trim (of_decide_eq_true name), ?_⟩
  intro field member
  obtain ⟨fieldNode, among, rfl⟩ := List.mem_map.mp member
  exact Field.clean_describedBy (fields fieldNode among)

theorem Enumeration.clean_describedBy {node : Node}
    (kept : ∀ rule ∈ rules node, rule.holds = true) : (describedBy node).Clean := by
  obtain ⟨name, values⟩ := forall_mem_rules.mp kept
  refine ⟨clean_trim (of_decide_eq_true name), ?_⟩
  intro value member
  obtain ⟨valueNode, among, rfl⟩ := List.mem_map.mp member
  have own := values valueNode among
  simp only [EnumValue.rules, List.forall_mem_cons, decide_eq_true_eq] at own
  exact clean_trim own.2.2.1

theorem Protocol.clean_describedBy {root : Node} (named : (nameRule root).holds = true) :
    Clean (describedBy root).name ∧ Clean (describedBy root).shortName := by
  have name : Clean (trim (root.textOf "protocolname")) := clean_trim (of_decide_eq_true named)
  refine ⟨name, ?_⟩
  unfold describedBy
  by_cases blank : Blank (root.textOf "protocolshort")
  · simp only [if_pos blank]
    exact clean_shortNameOf name
  · simp only [if_neg blank]
    exact clean_trim blank

namespace Definition

theorem clean_describedBy {root : Node} (kept : ∀ rule ∈ rules root, rule.holds = true) :
    (describedBy root).Clean := by
  obtain ⟨_, named, layout, header, enumeration⟩ := forall_mem_rules.mp kept
  simp only [Header.rules, List.forall_mem_cons, decide_eq_true_eq] at header
  obtain ⟨protocolName, shortName⟩ := Protocol.clean_describedBy named
  obtain ⟨layoutName, fields⟩ := Layout.clean_describedBy layout
  refine ⟨protocolName, shortName, layoutName, fields, clean_trim header.1, clean_trim header.2.1, ?_⟩
  intro e member
  obtain ⟨node, found, rfl⟩ := Option.map_eq_some_iff.mp member
  exact Enumeration.clean_describedBy (enumeration node found)

theorem clean_of_read {root : Node} {d : Definition}
    (accepted : (Definition.ofNode root).result = .ok d) : d.Clean := by
  rw [ofNode_eq_run] at accepted
  obtain ⟨kept, rfl⟩ := run_result_eq_ok_iff.mp accepted
  rw [rules_agenda] at kept
  exact clean_describedBy kept

theorem read_toNode (numerals : Nat → IdNumeral) {d : Definition} (clean : d.Clean) :
    (Definition.ofNode (d.toNode numerals)).result = .ok d := by
  rw [ofNode_eq_run, run_result_eq_ok_iff, rules_agenda, describedBy_toNode numerals clean]
  exact ⟨rules_toNode numerals clean, rfl⟩

/-- The definitions that readings give are exactly the clean ones. Each of them is read back from its
tree, however its ids are written, and so is what any tree was read as. -/
theorem ofNode_toNode_iff_clean (d : Definition) :
    ((∃ root, (Definition.ofNode root).result = .ok d) ↔ d.Clean) ∧
    (∀ numerals, (Definition.ofNode (d.toNode numerals)).result = .ok d ↔ d.Clean) ∧
    (∀ root numerals, (Definition.ofNode root).result = .ok d →
      (Definition.ofNode (d.toNode numerals)).result = .ok d) := by
  refine ⟨⟨?_, ?_⟩, ?_, ?_⟩
  · rintro ⟨root, accepted⟩
    exact clean_of_read accepted
  · intro clean
    exact ⟨d.toNode fun _ => .decimal, read_toNode _ clean⟩
  · intro numerals
    exact ⟨clean_of_read, read_toNode numerals⟩
  · intro root numerals accepted
    exact read_toNode numerals (clean_of_read accepted)

/-- A tree without a short name and a byte order, and the same definition written with both. -/
theorem read_and_written_again :
    let root := plain "protocol" [] [leaf "protocolname" " Lelei  Protocol\t",
      plain "structure" [] [plain "fields" [] [plain "field" [("name", "PacketID"),
        ("type", "uint16"), ("bits", " +016 ")] []], leaf "name" "stdUDPHeader"],
      plain "header" [] [leaf "name" "muhheader", leaf "id_field_name" "PacketID"],
      plain "enum" [] [leaf "name" "messageid_enum", plain "values" [] [
        plain "value" [("id", "0x64")] [.text "Hello"],
        plain "value" [("id", "18446744073709551615")] [.text "Bye"]]]]
    let d : Definition := ⟨⟨"Lelei  Protocol", "lp"⟩,
      ⟨"stdUDPHeader", .bigEndian, [⟨"PacketID", "uint16", 16⟩]⟩, ⟨"muhheader", "PacketID"⟩,
      some ⟨"messageid_enum", [⟨100, "Hello"⟩, ⟨18446744073709551615, "Bye"⟩]⟩⟩
    let numerals := fun i => if i = 0 then IdNumeral.decimal else IdNumeral.hexadecimal
    (Definition.ofNode root).result = .ok d ∧ d.Clean ∧
      (Definition.ofNode (d.toNode numerals)).result = .ok d := by
  intro root d numerals
  have accepted : (Definition.ofNode root).result = .ok d := by decide +kernel
  obtain ⟨range, _, again⟩ := ofNode_toNode_iff_clean d
  exact ⟨accepted, range.mp ⟨root, accepted⟩, again root numerals accepted⟩

end Definition

end WireSchema
