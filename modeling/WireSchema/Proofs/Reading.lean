import WireSchema.Proofs.Rules

/-!
Reading follows the rules: every part of a definition is read by following the agenda of its node.
So a tree is accepted exactly when it keeps all rules, with what it describes, and otherwise refused
for the first rule that it breaks.
-/
namespace WireSchema
open Text Xml Agenda

theorem require_trimmed? (failure : ParseError) (s : String) :
    (Journal.require failure (trimmed? s) : Traced String) =
      run [.check ⟨¬Blank s, failure⟩] (trim s) := by
  rw [run_check, trimmed?_eq]
  by_cases blank : Blank s
  · rw [if_pos blank, if_neg (by simp [blank])]
    rfl
  · rw [if_neg blank, if_pos (by simp [blank])]
    rfl

theorem sectionOf_eq_run (root : Node) (name : String) :
    sectionOf root name = run [.check (Definition.sectionRule root name)] (root.first name) := by
  unfold sectionOf Definition.sectionRule Node.first
  rw [run_check]
  cases root.child? name <;> rfl

theorem requiredText_eq_run (node : Node) (parent child : String) :
    requiredText node parent child =
      run [.check ⟨¬Blank (node.textOf child), .structural (.missingElement parent child)⟩]
        (trim (node.textOf child)) := by
  unfold requiredText
  rw [Node.childText?_eq_trimmed?, Traced.structural, require_trimmed?]

theorem requiredAttribute_eq_run (node : Node) (element name : String) :
    requiredAttribute node element name =
      run [.check ⟨¬Blank (node.valueOf name), .value (.missingAttribute element name)⟩]
        (trim (node.valueOf name)) := by
  unfold requiredAttribute
  rw [Node.attribute?_bind_trimmed?, Traced.value, require_trimmed?]

theorem Protocol.ofNode_eq_run (root : Node) :
    Protocol.ofNode root = run (agenda root) (describedBy root) := by
  unfold Protocol.ofNode agenda describedBy
  rw [Node.childText?_eq_trimmed?, Node.childText?_eq_trimmed?, Traced.value, require_trimmed?,
    trimmed?_eq]
  by_cases blank : Blank (root.textOf "protocolshort")
  · simp only [if_pos blank]
    apply run_bind [_] [_]
    rfl
  · simp only [if_neg blank]
    apply run_bind [_] []
    rfl

theorem ByteOrder.ofToken?_isSome_iff {s : String} :
    (ofToken? s).isSome = true ↔ s ∈ ["big_endian", "little_endian", "as_host"] := by
  rw [Option.isSome_iff_exists]
  constructor
  · rintro ⟨order, found⟩
    rw [ofToken?_eq_some_iff] at found
    cases order <;> simp [found, token]
  · intro member
    simp only [List.mem_cons, List.not_mem_nil, or_false] at member
    rcases member with rfl | rfl | rfl
    · exact ⟨bigEndian, ofToken?_eq_some_iff.mpr rfl⟩
    · exact ⟨littleEndian, ofToken?_eq_some_iff.mpr rfl⟩
    · exact ⟨asHost, ofToken?_eq_some_iff.mpr rfl⟩

theorem ByteOrder.ofText_eq_run (s : String) :
    (Journal.lift ((ofText s).mapError .value) : Traced ByteOrder) =
      run [.check ⟨s ∈ ["big_endian", "little_endian", "as_host"], .value (.unknownByteOrder s)⟩]
        ((ofToken? s).getD .standard) := by
  rw [run_check, ofText]
  cases found : ofToken? s with
  | none =>
    rw [if_neg (by rw [decide_eq_true_iff, ← ofToken?_isSome_iff, found]; simp)]
    rfl
  | some order =>
    rw [if_pos (by rw [decide_eq_true_iff, ← ofToken?_isSome_iff, found]; rfl)]
    rfl

theorem ByteOrder.ofNode_eq_run (root : Node) :
    ByteOrder.ofNode root =
      run [.check (rule (root.first "structure"))] (describedBy (root.first "structure")) := by
  unfold ByteOrder.ofNode
  rw [Node.bind_childText?, Node.childText?_eq_trimmed?, trimmed?_eq]
  by_cases blank : Blank ((root.first "structure").textOf "byte_order")
  · have missing : describedBy (root.first "structure") = .standard := by
      rw [describedBy, trim_eq_empty_iff.mpr blank]
      decide
    rw [if_pos blank, missing, run_check, if_pos (by simp [rule, blank])]
    rfl
  · rw [if_neg blank]
    simp only [rule, blank, false_or]
    exact ofText_eq_run _

theorem Field.width_eq_run (name literal : String) :
    Traced.value (.invalidBits name literal) (widthOfLiteral? literal) =
      run [.check ⟨∃ bits, DenotesWidth literal bits, .value (.invalidBits name literal)⟩]
        ((widthOfLiteral? literal).getD default) := by
  apply require_eq_run
  simp only [Option.isSome_iff_exists, widthOfLiteral?_eq_some_iff]

theorem Field.ofNode_eq_run (node : Node) :
    Field.ofNode node = run (checks (rules node)) (describedBy node) := by
  unfold Field.ofNode
  rw [requiredAttribute_eq_run]
  apply run_bind [_]
  rw [requiredAttribute_eq_run]
  apply run_bind [_]
  rw [requiredAttribute_eq_run]
  apply run_bind [_]
  rw [width_eq_run]
  apply run_bind [_] []
  rfl

theorem Layout.ofNode_eq_run (root : Node) :
    Layout.ofNode root =
      run (.check (Definition.sectionRule root "structure") :: agenda (root.first "structure"))
        (describedBy (root.first "structure")) := by
  unfold Layout.ofNode agenda
  rw [sectionOf_eq_run]
  apply run_bind [_]
  rw [requiredText_eq_run]
  apply run_bind [_]
  rw [ByteOrder.ofNode_eq_run]
  apply run_bind [_]
  rw [Node.listed_eq_elements, funext Field.ofNode_eq_run, mapM_run]
  change _ = run (checks ((fieldNodes (root.first "structure")).flatMap Field.rules) ++
    [.record (Event.readLayout (describedBy (root.first "structure")))]) _
  rw [checks_flatMap]
  apply run_bind
  rfl

theorem Header.ofNode_eq_run (root : Node) :
    Header.ofNode root =
      run (.check (Definition.sectionRule root "header") :: agenda (root.first "header"))
        (describedBy (root.first "header")) := by
  unfold Header.ofNode agenda
  rw [sectionOf_eq_run]
  apply run_bind [_]
  rw [requiredText_eq_run]
  apply run_bind [_]
  rw [requiredText_eq_run]
  apply run_bind [_] [_]
  rfl

theorem EnumValue.id_eq_run (literal : String) :
    (Journal.lift ((idLiteral (trim literal)).mapError .value) : Traced UInt64) =
      run [.check ⟨∃ id, DenotesId (trim literal) id, .value (.invalidEnumId (trim literal))⟩]
        ((idOfLiteral? literal).getD default) := by
  have trimmed : idOfLiteral? (trim literal) = idOfLiteral? literal := by
    unfold idOfLiteral?
    rw [trim_trim]
  rw [run_check, idLiteral, trimmed]
  simp only [← idOfLiteral?_eq_some_iff, ← Option.isSome_iff_exists]
  cases idOfLiteral? literal <;> rfl

theorem EnumValue.ofNode_eq_run (node : Node) :
    EnumValue.ofNode node = run (agenda node) (describedBy node) := by
  unfold EnumValue.ofNode agenda
  rw [requiredAttribute_eq_run]
  apply run_bind [_]
  rw [id_eq_run]
  apply run_bind [_]
  rw [Node.trimmedText?, Traced.value, require_trimmed?]
  apply run_bind [_] [_]
  rfl

theorem Enumeration.ofNode_eq_run (node : Node) :
    Enumeration.ofNode node = run (agenda node) (describedBy node) := by
  unfold Enumeration.ofNode agenda
  rw [Node.childText?_eq_trimmed?, Traced.value, require_trimmed?]
  apply run_bind [_]
  rw [Node.listed_eq_elements, funext EnumValue.ofNode_eq_run, mapM_run]
  apply run_bind
  rfl

namespace Definition

def named (root : Node) : Traced Unit :=
  if root.localName = "protocol" then pure ()
  else Journal.fail (.structural (.unexpectedRoot root.localName))

def enumerated (root : Node) : Traced (Option Enumeration) :=
  match root.child? "enum" with
  | none => pure none
  | some node => some <$> Enumeration.ofNode node

theorem ofNode_eq_parts (root : Node) :
    Definition.ofNode root = do
      named root
      let _ ← sectionOf root "structure"
      let _ ← sectionOf root "header"
      let protocol ← Protocol.ofNode root
      let layout ← Layout.ofNode root
      let header ← Header.ofNode root
      let enumeration? ← enumerated root
      .record [.readDefinition ⟨protocol, layout, header, enumeration?⟩]
      return ⟨protocol, layout, header, enumeration?⟩ := by
  unfold Definition.ofNode named enumerated
  by_cases root.localName = "protocol" <;> cases root.child? "enum" <;> simp [*]

theorem named_eq_run (root : Node) :
    named root =
      run [.check ⟨root.localName = "protocol", .structural (.unexpectedRoot root.localName)⟩] () := by
  unfold named
  rw [run_check]
  by_cases same : root.localName = "protocol"
  · rw [if_pos same, if_pos (by simp [same])]
    rfl
  · rw [if_neg same, if_neg (by simp [same])]

theorem enumerated_eq_run (root : Node) :
    enumerated root =
      run ((root.child? "enum").elim [] Enumeration.agenda)
        ((root.child? "enum").map .describedBy) := by
  unfold enumerated
  cases root.child? "enum" with
  | none => rfl
  | some node =>
    change some <$> Enumeration.ofNode node = _
    rw [Enumeration.ofNode_eq_run, run_map]
    rfl

/-- Reading a definition follows its agenda: the shape of the sections is checked first, and not
again when they are read. -/
theorem ofNode_eq_run (root : Node) :
    Definition.ofNode root = run (agenda root) (describedBy root) := by
  rw [ofNode_eq_parts, named_eq_run, sectionOf_eq_run, sectionOf_eq_run, Protocol.ofNode_eq_run,
    Layout.ofNode_eq_run, Header.ofNode_eq_run, enumerated_eq_run]
  let shape : Agenda Event ParseError := checks (shapeRules root)
  let layout := Layout.agenda (root.first "structure")
  let header := Header.agenda (root.first "header")
  let rest : Agenda Event ParseError := (root.child? "enum").elim [] Enumeration.agenda ++
    [.record (.readDefinition (describedBy root))]
  have again (name : String) (made : sectionRule root name ∈ shapeRules root) (before) :
      .check (sectionRule root name) ∈ shape ++ before :=
    List.mem_append_left _ (List.mem_map_of_mem made)
  calc
    _ = run (shape ++ (Protocol.agenda root ++ (.check (sectionRule root "structure") :: layout ++
          (.check (sectionRule root "header") :: header ++ rest)))) (describedBy root) := by
      apply run_bind [_]
      apply run_bind [_]
      apply run_bind [_]
      apply run_bind
      apply run_bind
      apply run_bind
      apply run_bind
      rfl
    _ = run (shape ++ Protocol.agenda root ++ .check (sectionRule root "structure") ::
          (layout ++ (.check (sectionRule root "header") :: header ++ rest))) (describedBy root) := by
      simp only [List.append_assoc, List.cons_append]
    _ = run (shape ++ (Protocol.agenda root ++ layout) ++ .check (sectionRule root "header") ::
          (header ++ rest)) (describedBy root) := by
      rw [run_check_again (again "structure" (by simp [shapeRules]) _)]
      simp only [List.append_assoc, List.cons_append]
    _ = run (agenda root) (describedBy root) := by
      rw [run_check_again (again "header" (by simp [shapeRules]) _)]
      simp only [List.append_assoc, shape, layout, header, rest, agenda, headAgenda]

theorem rules_headAgenda (root : Node) : (headAgenda root).rules = headRules root := by
  have protocol : (Protocol.agenda root).rules = [Protocol.nameRule root] := by
    unfold Protocol.agenda
    split <;> rfl
  rw [headAgenda, Layout.agenda, Header.agenda, headRules]
  simp only [rules_append, rules_checks, rules_record, protocol, List.append_nil]

theorem rules_values (nodes : List Node) :
    Agenda.rules (nodes.flatMap EnumValue.agenda) = nodes.flatMap EnumValue.rules := by
  have value (node : Node) : (EnumValue.agenda node).rules = EnumValue.rules node := by
    rw [EnumValue.agenda, rules_append, rules_checks, rules_record, List.append_nil]
  rw [rules_flatMap, funext value]

theorem rules_agenda (root : Node) : (agenda root).rules = rules root := by
  have enumeration (node : Node) : (Enumeration.agenda node).rules = Enumeration.rules node := by
    rw [Enumeration.agenda, rules_append, Enumeration.rules]
    change Enumeration.nameRule node :: Agenda.rules (List.flatMap _ _) ++ [] = _
    rw [rules_values, List.append_nil]
  rw [agenda, rules_append, rules_append, rules_headAgenda, rules_record, List.append_nil, rules]
  cases root.child? "enum" with
  | none => rfl
  | some node => exact congrArg _ (enumeration node)

/-- A tree is accepted exactly when it keeps all rules, with what it describes, and otherwise refused
for the first rule that it breaks, however many others it breaks. -/
theorem ofNode_result_iff_rules (root : Node) :
    (∀ d, (Definition.ofNode root).result = .ok d ↔
      (∀ rule ∈ rules root, rule.holds = true) ∧ d = describedBy root) ∧
    (∀ e, (Definition.ofNode root).result = .error e ↔
      ∃ before rule after, rules root = before ++ rule :: after ∧
        (∀ other ∈ before, other.holds = true) ∧ rule.holds = false ∧ rule.failure = e) := by
  rw [ofNode_eq_run, ← rules_agenda]
  exact ⟨fun d => run_result_eq_ok_iff, fun e => run_result_eq_error_iff⟩

end Definition

end WireSchema
