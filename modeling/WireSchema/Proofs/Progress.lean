import WireSchema.Proofs.Reading
import WireSchema.Proofs.Written

/-!
What the events of a reading tell about it. A reading that ends well has told of every part in order;
one that fails has told of exactly the parts before the first rule that is broken.
-/
namespace WireSchema
open Text Xml Agenda

def Enumeration.events (enumeration : Enumeration) : List Event :=
  enumeration.values.map .readEnumValue ++ [.readEnumeration enumeration]

def Event.shown (event : Event) : String × List (String × String) := (event.message, event.details)

namespace Definition

def headEvents (derived : Bool) (d : Definition) : List Event :=
  (if derived then [.derivedShortName d.protocol] else []) ++
    [.readLayout d.layout, .readHeader d.header]

def events (derived : Bool) (d : Definition) : List Event :=
  d.headEvents derived ++ d.enumeration?.elim [] Enumeration.events ++ [.readDefinition d]

/-- What is shown of a reading that ends well. -/
def shown (derived : Bool) (d : Definition) : List (String × List (String × String)) :=
  (if derived then
      [("derived protocol short name",
        [("proto_name", d.protocol.name), ("short", d.protocol.shortName)])]
    else []) ++
  [("parsed structure",
      [("name", d.layout.name), ("byte_order", d.layout.byteOrder.token),
       ("fields", toString d.layout.fields.length)]),
   ("parsed header", [("name", d.header.name), ("id_field_name", d.header.idFieldName)])] ++
  (match d.enumeration? with
    | none => []
    | some e =>
      e.values.map (fun v => ("enum value", [("id", toString v.id), ("name", v.name)])) ++
        [("parsed enum", [("name", e.name), ("values", toString e.values.length)])]) ++
  [("parsed protocol document",
      [("proto", d.protocol.name), ("fields", toString d.layout.fields.length),
       ("has_enum", toString d.enumeration?.isSome)])]

theorem map_shown_events (derived : Bool) (d : Definition) :
    (d.events derived).map Event.shown = d.shown derived := by
  unfold events headEvents shown
  simp only [List.map_append]
  congr 3
  · cases derived <;> rfl
  · cases d.enumeration? with
    | none => rfl
    | some e =>
      rw [Option.elim_some, Enumeration.events, List.map_append, List.map_map]
      rfl

theorem entries_headAgenda (root : Node) :
    entries (headAgenda root) =
      headEvents (Blank (root.textOf "protocolshort")) (describedBy root) := by
  have protocol : entries (Protocol.agenda root) =
      if Blank (root.textOf "protocolshort") then [.derivedShortName (.describedBy root)] else [] := by
    unfold Protocol.agenda
    split <;> rfl
  unfold headAgenda Layout.agenda Header.agenda headEvents
  simp only [entries_append, entries_checks, protocol, decide_eq_true_eq, List.append_assoc,
    List.nil_append]
  rfl

theorem entries_values (nodes : List Node) :
    entries (nodes.flatMap EnumValue.agenda) =
      nodes.map fun node => .readEnumValue (.describedBy node) := by
  induction nodes with
  | nil => rfl
  | cons node nodes ih =>
    rw [List.flatMap_cons, entries_append, ih, EnumValue.agenda, entries_append, entries_checks]
    rfl

theorem entries_agenda (root : Node) :
    entries (agenda root) =
      (describedBy root).events (Blank (root.textOf "protocolshort")) := by
  have enumeration (node : Node) :
      entries (Enumeration.agenda node) = (Enumeration.describedBy node).events := by
    unfold Enumeration.agenda Enumeration.events
    rw [entries_append]
    change entries (List.flatMap _ _) ++ _ = _
    rw [entries_values, Enumeration.describedBy, List.map_map]
    rfl
  rw [agenda, entries_append, entries_append, entries_headAgenda, events]
  congr 2
  rw [describedBy]
  cases root.child? "enum" with
  | none => rfl
  | some node => exact enumeration node

theorem entries_ofNode (root : Node) :
    (Definition.ofNode root).entries = entries (passed (agenda root)) := by
  rw [ofNode_eq_run]
  rfl

theorem complete_entries {root : Node} {d : Definition}
    (accepted : (Definition.ofNode root).result = .ok d) :
    (Definition.ofNode root).entries = d.events (Blank (root.textOf "protocolshort")) := by
  rw [ofNode_eq_run] at accepted
  obtain ⟨kept, rfl⟩ := run_result_eq_ok_iff.mp accepted
  rw [entries_ofNode, passed_of_rules kept, entries_agenda]

theorem unnamed_entries {root : Node}
    (broken : ∃ rule ∈ shapeRules root ++ [Protocol.nameRule root], rule.holds = false) :
    (Definition.ofNode root).entries = [] := by
  rw [entries_ofNode]
  obtain ⟨rest, whole⟩ : ∃ rest, agenda root =
      [] ++ checks (shapeRules root ++ [Protocol.nameRule root]) ++ rest := by
    unfold agenda headAgenda Protocol.agenda checks
    simp only [List.map_append, List.append_assoc, List.nil_append]
    exact ⟨_, rfl⟩
  rw [whole, entries_passed_of_broken broken]
  rfl

theorem readLayout_not_mem_entries {root : Node}
    (broken : ∃ rule ∈ Layout.rules (root.first "structure"), rule.holds = false)
    (layout : Layout) : .readLayout layout ∉ (Definition.ofNode root).entries := by
  rw [entries_ofNode]
  obtain ⟨rest, whole⟩ : ∃ rest, agenda root =
      checks (shapeRules root) ++ Protocol.agenda root ++
        checks (Layout.rules (root.first "structure")) ++ rest := by
    unfold agenda headAgenda Layout.agenda
    simp only [List.append_assoc]
    exact ⟨_, rfl⟩
  rw [whole, entries_passed_of_broken broken]
  -- What is left before the layout can only tell of a derived short name.
  intro member
  have early := entries_passed_subset _ member
  rw [entries_append, entries_checks, List.nil_append] at early
  unfold Protocol.agenda at early
  split at early <;> simp [entries, Step.entry?] at early

theorem entries_before_value {root node bad : Node} {before after : List Node}
    (found : root.child? "enum" = some node)
    (split : Enumeration.valueNodes node = before ++ bad :: after)
    (head : ∀ rule ∈ headRules root ++ [Enumeration.nameRule node], rule.holds = true)
    (good : ∀ value ∈ before, ∀ rule ∈ EnumValue.rules value, rule.holds = true)
    (broken : ∃ rule ∈ EnumValue.rules bad, rule.holds = false) :
    (Definition.ofNode root).entries =
      (describedBy root).headEvents (Blank (root.textOf "protocolshort")) ++
        before.map fun value => .readEnumValue (.describedBy value) := by
  rw [entries_ofNode]
  let done : Agenda Event ParseError :=
    headAgenda root ++ [.check (Enumeration.nameRule node)] ++ before.flatMap EnumValue.agenda
  obtain ⟨rest, whole⟩ : ∃ rest, agenda root = done ++ checks (EnumValue.rules bad) ++ rest := by
    rw [agenda, found, Option.elim_some, Enumeration.agenda, split, List.flatMap_append,
      List.flatMap_cons, EnumValue.agenda]
    simp only [done, List.append_assoc, List.cons_append, List.nil_append]
    exact ⟨_, rfl⟩
  have kept : ∀ rule ∈ done.rules, rule.holds = true := by
    intro rule member
    simp only [done, rules_append, rules_headAgenda, rules_values] at member
    rcases List.mem_append.mp member with early | inside
    · exact head rule early
    · obtain ⟨value, earlier, own⟩ := List.mem_flatMap.mp inside
      exact good value earlier rule own
  rw [whole, entries_passed_of_broken broken, passed_of_rules kept]
  simp only [done, entries_append, entries_headAgenda, entries_values, List.append_assoc]
  rfl

/-- The events of a reading tell how far it came. A complete reading has told of every part, in
order. A failed one has told of the parts before the first broken rule: of nothing without a name of
the protocol, of no layout with a bad field, and of the values before the first bad one. -/
theorem ofNode_entries_until_failure (root : Node) :
    (∀ d, (Definition.ofNode root).result = .ok d →
      (Definition.ofNode root).entries = d.events (Blank (root.textOf "protocolshort")) ∧
      (Definition.ofNode root).entries.map Event.shown =
        d.shown (Blank (root.textOf "protocolshort"))) ∧
    (∀ e, (Definition.ofNode root).result = .error e →
      ∃ (done : Agenda Event ParseError) (rule : Rule ParseError) (rest : Agenda Event ParseError),
        agenda root = done ++ .check rule :: rest ∧ (∀ other ∈ done.rules, other.holds = true) ∧
        rule.holds = false ∧ rule.failure = e ∧
        (Definition.ofNode root).entries = done.entries) ∧
    ((∃ rule ∈ shapeRules root ++ [Protocol.nameRule root], rule.holds = false) →
      (Definition.ofNode root).entries = []) ∧
    ((∃ node ∈ Layout.fieldNodes (root.first "structure"), ∃ rule ∈ Field.rules node,
        rule.holds = false) →
      ∀ layout, .readLayout layout ∉ (Definition.ofNode root).entries) ∧
    (∀ node before bad after, root.child? "enum" = some node →
      Enumeration.valueNodes node = before ++ bad :: after →
      (∀ rule ∈ headRules root ++ [Enumeration.nameRule node], rule.holds = true) →
      (∀ value ∈ before, ∀ rule ∈ EnumValue.rules value, rule.holds = true) →
      (∃ rule ∈ EnumValue.rules bad, rule.holds = false) →
      (Definition.ofNode root).entries =
        (describedBy root).headEvents (Blank (root.textOf "protocolshort")) ++
          before.map fun value => .readEnumValue (.describedBy value)) := by
  refine ⟨?_, ?_, unnamed_entries, ?_, ?_⟩
  · intro d accepted
    rw [complete_entries accepted, map_shown_events]
    exact ⟨rfl, rfl⟩
  · intro e failed
    rw [ofNode_eq_run] at failed ⊢
    exact run_stopped failed
  · rintro ⟨node, field, rule, member, broken⟩
    apply readLayout_not_mem_entries
    refine ⟨rule, List.mem_append_right _ ?_, broken⟩
    exact List.mem_flatMap.mpr ⟨node, field, member⟩
  · intro node before bad after found split head good broken
    exact entries_before_value found split head good broken

open Node in
/-- One tree that is read to its end, and three that stop at the name, at a field and at a value. -/
theorem entries_of_four_trees :
    let value := fun id => plain "value" [("id", id)] [.text "v"]
    let enum := fun id => plain "enum" [] [leaf "name" "e", plain "values" [] [value "1", value id]]
    let tree := fun name bits id => plain "protocol" [] [leaf "protocolname" name,
      plain "structure" [] [leaf "name" "s", plain "fields" []
        [plain "field" [("name", "f"), ("type", "t"), ("bits", bits)] []]],
      plain "header" [] [leaf "name" "h", leaf "id_field_name" "f"], enum id]
    (Definition.ofNode (tree "A B" "8" "2")).entries.map Event.message =
      ["derived protocol short name", "parsed structure", "parsed header", "enum value",
        "enum value", "parsed enum", "parsed protocol document"] ∧
    (Definition.ofNode (tree " " "0" "x")).entries = [] ∧
    (∀ layout, .readLayout layout ∉ (Definition.ofNode (tree "A B" "0" "x")).entries) ∧
    (Definition.ofNode (tree "A B" "8" "x")).entries =
      [.derivedShortName ⟨"A B", "ab"⟩, .readLayout ⟨"s", .bigEndian, [⟨"f", "t", 8⟩]⟩,
        .readHeader ⟨"h", "f"⟩, .readEnumValue ⟨1, "v"⟩] := by
  intro value enum tree
  obtain ⟨complete, _⟩ := ofNode_entries_until_failure (tree "A B" "8" "2")
  obtain ⟨_, _, unnamed, _⟩ := ofNode_entries_until_failure (tree " " "0" "x")
  obtain ⟨_, _, _, badField, _⟩ := ofNode_entries_until_failure (tree "A B" "0" "x")
  obtain ⟨_, _, _, _, badValue⟩ := ofNode_entries_until_failure (tree "A B" "8" "x")
  refine ⟨?_, ?_, ?_, ?_⟩
  · rw [(complete (describedBy (tree "A B" "8" "2")) (by decide +kernel)).1]
    decide +kernel
  · exact unnamed (by decide +kernel)
  · exact badField (by decide +kernel)
  · rw [badValue (enum "x") [value "1"] (value "x") [] rfl rfl (by decide +kernel)
      (by decide +kernel) (by decide +kernel)]
    decide +kernel

end Definition

end WireSchema
