import WireSchema.Definition.Report
import WireSchema.Proofs.Lookups

/-!
The notations of ids in a report. A report shows every id twice, in hexadecimal and in decimal, and
both notations are id literals that denote this id and no other. So a document in which id literals
are replaced by what the report shows for them is read as before.
-/
namespace WireSchema
open Text Xml

/-- Digits in lower case, without zeros before the first digit that counts. -/
structure IsShortNumeral (base : Nat) (digits : List Char) (n : Nat) : Prop
    extends IsNumeral base digits n where
  lowerCase : ∀ c ∈ digits, c ∈ digitRow
  short : digits.head? = some '0' → digits = ['0']

def idNotations (id : UInt64) : List String := [hexadecimal id.toNat, decimal id.toNat]

namespace Xml.Node

def setAttribute (key value : String) : Node → Node
  | element name attributes children =>
    let set (a : Attribute) : Attribute := if a.name == ⟨none, key⟩ then ⟨a.name, value⟩ else a
    element name (attributes.map set) children
  | node => node

/-- The nodes with changes to the elements of a name, each by its place among them. -/
def changeNamed (name : String) (change : Nat → Node → Node) : List Node → List Node
  | [] => []
  | node :: nodes =>
    if node.isNamed name then change 0 node :: changeNamed name (fun i => change (i + 1)) nodes
    else node :: changeNamed name change nodes

def changeElements (name : String) (change : Nat → Node → Node) : Node → Node
  | document children => document (changeNamed name change children)
  | element tag attributes children => element tag attributes (changeNamed name change children)
  | node => node

def changeFirst (name : String) (change : Node → Node) : Node → Node :=
  changeElements name fun i node => if i = 0 then change node else node

def withIdLiteral (literal? : Option String) (value : Node) : Node :=
  literal?.elim value (value.setAttribute "id" ·)

def withValueIds (literals : Nat → Option String) : Node → Node :=
  changeFirst "values" (changeElements "value" fun i => withIdLiteral (literals i))

/-- The tree with other id literals for some values of its enumeration, given by place. -/
def withIdLiterals (literals : Nat → Option String) : Node → Node :=
  changeFirst "enum" (withValueIds literals)

section
variable {node : Node} {key name other : String} {change : Nat → Node → Node}

theorem attribute?_setAttribute (value : String) :
    (node.setAttribute key value).attribute? key = (node.attribute? key).map fun _ => value := by
  cases node with
  | element tag attributes children =>
    unfold setAttribute attribute? Node.attributes
    induction attributes with
    | nil => rfl
    | cons a rest ih =>
      by_cases same : (a.name == ⟨none, key⟩) = true
      · simp only [List.map_cons, same, if_true, List.find?_cons_of_pos, Option.map_some]
      · simp only [List.map_cons, same, Bool.false_eq_true, if_false, List.find?_cons_of_neg,
          not_false_eq_true]
        exact ih
  | _ => rfl

theorem isNamed_setAttribute (value : String) :
    (node.setAttribute key value).isNamed other = node.isNamed other := by
  cases node <;> rfl

theorem ownText_setAttribute (value : String) :
    (node.setAttribute key value).ownText = node.ownText := by
  cases node <;> rfl

theorem isNamed_changeElements : (node.changeElements name change).isNamed other =
    node.isNamed other := by
  cases node <;> rfl

theorem isNamed_changeFirst {change : Node → Node} : (node.changeFirst name change).isNamed other =
    node.isNamed other := isNamed_changeElements

theorem filter_changeNamed (kept : ∀ i node name, (change i node).isNamed name = node.isNamed name)
    (nodes : List Node) :
    (changeNamed name change nodes).filter (isNamed name) =
      (nodes.filter (isNamed name)).mapIdx change := by
  induction nodes generalizing change with
  | nil => rfl
  | cons node nodes ih =>
    unfold changeNamed
    by_cases named : node.isNamed name = true
    · rw [if_pos named, List.filter_cons_of_pos (by rwa [kept]), List.filter_cons_of_pos named,
        List.mapIdx_cons, ih fun i => kept (i + 1)]
    · rw [if_neg named, List.filter_cons_of_neg named, List.filter_cons_of_neg named, ih kept]

theorem filter_changeNamed_of_ne
    (kept : ∀ i node name, (change i node).isNamed name = node.isNamed name)
    (differs : other ≠ name) (nodes : List Node) :
    (changeNamed name change nodes).filter (isNamed other) = nodes.filter (isNamed other) := by
  induction nodes generalizing change with
  | nil => rfl
  | cons node nodes ih =>
    unfold changeNamed
    by_cases named : node.isNamed name = true
    · have out : node.isNamed other = false := by
        obtain ⟨_, same⟩ := Bool.and_eq_true_iff.mp named
        rw [isNamed, beq_iff_eq.mp same, beq_false_of_ne differs.symm, Bool.and_false]
      rw [if_pos named, List.filter_cons_of_neg (by simp [kept, out]),
        List.filter_cons_of_neg (by simp [out]), ih fun i => kept (i + 1)]
    · rw [if_neg named, List.filter_cons, List.filter_cons, ih kept]

theorem elements_changeElements
    (kept : ∀ i node name, (change i node).isNamed name = node.isNamed name) :
    (node.changeElements name change).elements name = (node.elements name).mapIdx change := by
  cases node with
  | document children => exact filter_changeNamed kept children
  | element tag attributes children => exact filter_changeNamed kept children
  | _ => rfl

theorem elements_changeElements_of_ne
    (kept : ∀ i node name, (change i node).isNamed name = node.isNamed name)
    (differs : other ≠ name) :
    (node.changeElements name change).elements other = node.elements other := by
  cases node with
  | document children => exact filter_changeNamed_of_ne kept differs children
  | element tag attributes children => exact filter_changeNamed_of_ne kept differs children
  | _ => rfl

theorem isNamed_change_of_zero {change : Node → Node}
    (kept : ∀ node name, (change node).isNamed name = node.isNamed name) (i : Nat) (node : Node)
    (name : String) : (if i = 0 then change node else node).isNamed name = node.isNamed name := by
  split
  · exact kept node name
  · rfl

theorem child?_changeFirst {change : Node → Node}
    (kept : ∀ node name, (change node).isNamed name = node.isNamed name) :
    (node.changeFirst name change).child? name = (node.child? name).map change := by
  rw [child?_eq_head?, child?_eq_head?, changeFirst,
    elements_changeElements (isNamed_change_of_zero kept)]
  cases node.elements name with
  | nil => rfl
  | cons first rest =>
    rw [List.mapIdx_cons, List.head?_cons, List.head?_cons, Option.map_some, if_pos rfl]

theorem child?_changeFirst_of_ne {change : Node → Node}
    (kept : ∀ node name, (change node).isNamed name = node.isNamed name) (differs : other ≠ name) :
    (node.changeFirst name change).child? other = node.child? other := by
  rw [child?_eq_head?, child?_eq_head?, changeFirst,
    elements_changeElements_of_ne (isNamed_change_of_zero kept) differs]

theorem isNamed_withValueIds (literals : Nat → Option String) (node : Node) (name : String) :
    (node.withValueIds literals).isNamed name = node.isNamed name := isNamed_changeFirst

theorem child?_withIdLiterals (literals : Nat → Option String) (root : Node) :
    (root.withIdLiterals literals).child? "enum" =
      (root.child? "enum").map (withValueIds literals) :=
  child?_changeFirst (isNamed_withValueIds literals)

end

end Xml.Node

section
variable {base : Nat} {id : UInt64} {text : String}

theorem digitChar_spec : ∀ d < 16, d.digitChar ∈ digitRow ∧ (d ≠ 0 → d.digitChar ≠ '0') := by
  decide

theorem mem_digitRow_of_mem_toDigits (large : 1 < base) (bound : base ≤ 16) (n : Nat) :
    ∀ c ∈ Nat.toDigits base n, c ∈ digitRow := by
  induction n using Nat.base_induction base large with
  | single d inBase =>
    rw [Nat.toDigits_of_lt_base inBase, List.forall_mem_singleton]
    exact (digitChar_spec d (inBase.trans_le bound)).1
  | digit m d inBase earlier ih =>
    rw [← Nat.toDigits_append_toDigits large earlier inBase, Nat.toDigits_of_lt_base inBase,
      List.forall_mem_append, List.forall_mem_singleton]
    exact ⟨ih, (digitChar_spec d (inBase.trans_le bound)).1⟩

theorem head?_toDigits_ne_zero (large : 1 < base) (bound : base ≤ 16) {n : Nat} (positive : n ≠ 0) :
    (Nat.toDigits base n).head? ≠ some '0' := by
  induction n using Nat.base_induction base large with
  | single d inBase =>
    rw [Nat.toDigits_of_lt_base inBase, List.head?_cons, ne_eq, Option.some_inj]
    exact (digitChar_spec d (inBase.trans_le bound)).2 positive
  | digit m d inBase earlier ih =>
    rw [← Nat.toDigits_append_toDigits large earlier inBase,
      List.head?_append_of_ne_nil _ (denotes_toDigits large bound m).ne_nil]
    exact ih (Nat.ne_of_gt earlier)

theorem isShortNumeral_toDigits (large : 1 < base) (bound : base ≤ 16) (n : Nat) :
    IsShortNumeral base (Nat.toDigits base n) n where
  toIsNumeral := (denotes_iff_isNumeral bound).mp (denotes_toDigits large bound n)
  lowerCase := mem_digitRow_of_mem_toDigits large bound n
  short zero := by
    by_cases none : n = 0
    · rw [none, Nat.toDigits_zero]
    · exact absurd zero (head?_toDigits_ne_zero large bound none)

theorem denotesId_of_mem_idNotations (shown : text ∈ idNotations id) : DenotesId text id := by
  simp only [idNotations, List.mem_cons, List.not_mem_nil, or_false] at shown
  rcases shown with rfl | rfl
  · exact .inl (denotesHexadecimal_hexadecimal id.toNat)
  · exact .inr (denotesDecimal_decimal id.toNat)

theorem idLiteral_of_mem_idNotations (shown : text ∈ idNotations id) {front back : String}
    (blank : Blank front ∧ Blank back) : idLiteral (front ++ text ++ back) = .ok id := by
  have denoted := denotesId_of_mem_idNotations shown
  have trimmed : trim (front ++ text ++ back) = text := by
    rw [trim_pad blank.1 blank.2, trim_of_clean denoted.clean]
  have read : idOfLiteral? (front ++ text ++ back) = some id := by
    rwa [idOfLiteral?_eq_some_iff, trimmed]
  rw [idLiteral, read]

theorem eq_of_mem_idNotations {other : UInt64} (shown : text ∈ idNotations id)
    (shown' : text ∈ idNotations other) : id = other := by
  have read : idLiteral ("" ++ text ++ "") = .ok id := idLiteral_of_mem_idNotations shown (by decide)
  have read' : idLiteral ("" ++ text ++ "") = .ok other :=
    idLiteral_of_mem_idNotations shown' (by decide)
  exact Except.ok.inj (read.symm.trans read')

end

namespace EnumValue
open Xml.Node

theorem ofNode_of_hasId {node : Node} {id : UInt64} (has : node.HasId id) :
    EnumValue.ofNode node = do
      let name ← Traced.value (.missingText "value") node.trimmedText?
      .record [.readEnumValue ⟨id, name⟩]
      return ⟨id, name⟩ := by
  obtain ⟨literal, found, form⟩ := has
  rw [← denotesHexadecimal_iff, ← denotesDecimal_iff] at form
  have denoted : DenotesId (trim literal) id := form
  have given : (node.attribute? "id").bind trimmed? = some (trim literal) := by
    have solid : ¬Blank literal := fun blank =>
      denoted.clean.nonempty (trim_eq_empty_iff.mpr blank)
    rw [found, Option.bind_some, trimmed?_eq, if_neg solid]
  have read : idLiteral (trim literal) = .ok id := by
    rw [idLiteral, idOfLiteral?_eq_some_iff.mpr (by rwa [trim_trim])]
  rw [EnumValue.ofNode, requiredAttribute, given, Traced.value, Journal.require_some_bind, read,
    Except.mapError, Journal.lift_ok_bind]

theorem hasId_setAttribute {node : Node} {id : UInt64} {text : String} (has : node.HasId id)
    (shown : text ∈ idNotations id) : (node.setAttribute "id" text).HasId id := by
  obtain ⟨literal, found, _⟩ := has
  have denoted := denotesId_of_mem_idNotations shown
  refine ⟨text, ?_, ?_⟩
  · rw [attribute?_setAttribute, found, Option.map_some]
  · rw [trim_of_clean denoted.clean, ← denotesHexadecimal_iff, ← denotesDecimal_iff]
    exact denoted

theorem ofNode_setAttribute {node : Node} {id : UInt64} {text : String} (has : node.HasId id)
    (shown : text ∈ idNotations id) :
    EnumValue.ofNode (node.setAttribute "id" text) = EnumValue.ofNode node := by
  rw [ofNode_of_hasId has, ofNode_of_hasId (hasId_setAttribute has shown), trimmedText?,
    ownText_setAttribute, trimmedText?]

end EnumValue

theorem mapM_mapIdx_congr {α : Type} {f : Node → Traced α} {change : Nat → Node → Node}
    {nodes : List Node} (same : ∀ i node, nodes[i]? = some node → f (change i node) = f node) :
    (nodes.mapIdx change).mapM f = nodes.mapM f := by
  induction nodes generalizing change with
  | nil => rfl
  | cons node nodes ih =>
    rw [List.mapIdx_cons, List.mapM_cons, List.mapM_cons, same 0 node rfl,
      ih fun i later found => same (i + 1) later (by simpa using found)]

namespace Enumeration
open Xml.Node

/-- Whether literals are given only for values that there are, each of them a notation of the id. -/
def Shows (e : Enumeration) (literals : Nat → Option String) : Prop :=
  ∀ i, ∀ text ∈ literals i, ∃ value ∈ e.values[i]?, text ∈ idNotations value.id

theorem valueNodes_withValueIds (literals : Nat → Option String) (node : Node) :
    valueNodes (node.withValueIds literals) =
      (valueNodes node).mapIdx fun i => withIdLiteral (literals i) := by
  have kept (i : Nat) (node : Node) (name : String) :
      (withIdLiteral (literals i) node).isNamed name = node.isNamed name := by
    unfold withIdLiteral
    cases literals i with
    | none => rfl
    | some text => exact isNamed_setAttribute text
  unfold valueNodes withValueIds Node.first
  rw [child?_changeFirst fun _ _ => isNamed_changeElements]
  cases node.child? "values" with
  | none => rfl
  | some list => exact elements_changeElements kept

theorem hasId_of_values {node value : Node} {i : Nat} {own : EnumValue}
    (kept : ∀ rule ∈ rules node, rule.holds = true) (found : (valueNodes node)[i]? = some value)
    (listed : (describedBy node).values[i]? = some own) : value.HasId own.id := by
  obtain ⟨_, inside⟩ := forall_mem_rules.mp kept
  rw [describedBy, List.getElem?_map, found, Option.map_some, Option.some_inj] at listed
  rw [← listed]
  exact (EnumValue.id_describedBy_iff (inside value (List.mem_of_getElem? found))).mp
    (beq_self_eq_true _)

theorem ofNode_withValueIds {literals : Nat → Option String} {node : Node}
    (kept : ∀ rule ∈ rules node, rule.holds = true) (shown : (describedBy node).Shows literals) :
    Enumeration.ofNode (node.withValueIds literals) = Enumeration.ofNode node := by
  have name : (node.withValueIds literals).childText? "name" = node.childText? "name" := by
    unfold Node.childText? withValueIds
    rw [child?_changeFirst_of_ne (fun _ _ => isNamed_changeElements) (by decide)]
  have values : (valueNodes (node.withValueIds literals)).mapM EnumValue.ofNode =
      (valueNodes node).mapM EnumValue.ofNode := by
    rw [valueNodes_withValueIds]
    apply mapM_mapIdx_congr
    intro i value found
    unfold withIdLiteral
    cases given : literals i with
    | none => rfl
    | some text =>
      obtain ⟨own, listed, written⟩ := shown i text given
      exact EnumValue.ofNode_setAttribute (hasId_of_values kept found listed) written
  unfold Enumeration.ofNode
  rw [name, Node.listed_eq_elements, Node.listed_eq_elements]
  exact congrArg _ (funext fun _ => congrArg (· >>= _) values)

end Enumeration

namespace Definition
open Xml.Node

theorem ofNode_congr_of_enumerated {a b : Node} (rootName : a.localName = b.localName)
    (others : ∀ name ≠ "enum", a.child? name = b.child? name)
    (same : enumerated a = enumerated b) : Definition.ofNode a = Definition.ofNode b := by
  have texts (name : String) (differs : name ≠ "enum") : a.childText? name = b.childText? name := by
    rw [Node.childText?, others name differs, Node.childText?]
  rw [ofNode_eq_parts, ofNode_eq_parts, same]
  simp only [named, rootName, sectionOf, Protocol.ofNode, Layout.ofNode, Header.ofNode,
    ByteOrder.ofNode, others "structure" (by decide), others "header" (by decide),
    texts "protocolname" (by decide), texts "protocolshort" (by decide)]

theorem enum_of_accepted {root : Node} {d : Definition} {e : Enumeration}
    (accepted : (Definition.ofNode root).result = .ok d) (has : d.enumeration? = some e) :
    ∃ node, root.child? "enum" = some node ∧ e = .describedBy node ∧
      ∀ rule ∈ Enumeration.rules node, rule.holds = true := by
  obtain ⟨kept, rfl⟩ := ((ofNode_result_iff_rules root).1 d).mp accepted
  obtain ⟨_, _, _, _, inside⟩ := forall_mem_rules.mp kept
  obtain ⟨node, found, same⟩ := Option.map_eq_some_iff.mp has
  exact ⟨node, found, same.symm, inside node found⟩

section
variable {literals : Nat → Option String} {root : Node} {d : Definition} {e : Enumeration}
  (accepted : (Definition.ofNode root).result = .ok d) (has : d.enumeration? = some e)
  (shown : e.Shows literals)
include accepted has shown

theorem ofNode_withIdLiterals :
    Definition.ofNode (root.withIdLiterals literals) = Definition.ofNode root := by
  obtain ⟨node, found, rfl, kept⟩ := enum_of_accepted accepted has
  apply ofNode_congr_of_enumerated
  · cases root <;> rfl
  · exact fun name differs => child?_changeFirst_of_ne (isNamed_withValueIds literals) differs
  · unfold enumerated
    rw [child?_withIdLiterals, found, Option.map_some]
    exact congrArg (some <$> ·) (Enumeration.ofNode_withValueIds kept shown)

theorem id_of_withIdLiterals (i : Nat) :
    let idAt := fun root : Node =>
      (Enumeration.valueNodes (root.first "enum"))[i]?.bind (·.attribute? "id")
    idAt (root.withIdLiterals literals) = (literals i).or (idAt root) := by
  intro idAt
  obtain ⟨node, found, rfl, kept⟩ := enum_of_accepted accepted has
  have changed : (root.withIdLiterals literals).first "enum" = node.withValueIds literals := by
    apply first_of_child?
    rw [child?_withIdLiterals, found, Option.map_some]
  simp only [idAt, changed, first_of_child? found, Enumeration.valueNodes_withValueIds,
    List.getElem?_mapIdx]
  cases given : literals i with
  | none => cases (Enumeration.valueNodes node)[i]? <;> rfl
  | some text =>
    obtain ⟨own, listed, _⟩ := shown i text given
    have there : ((Enumeration.valueNodes node)[i]?).map EnumValue.describedBy = some own := by
      rw [← List.getElem?_map]
      exact listed
    obtain ⟨value, at_i, _⟩ := Option.map_eq_some_iff.mp there
    obtain ⟨literal, given', _⟩ := Enumeration.hasId_of_values kept at_i listed
    rw [at_i, Option.map_some, Option.bind_some, withIdLiteral, Option.elim_some,
      attribute?_setAttribute, given', Option.map_some, Option.some_or]

end

/-- A report shows an id in hexadecimal and in decimal, in the shortest form of each. Both notations, with
blanks around them, are read as this id, and so no notation is shared by two ids. In an accepted tree
with an enumeration, the id literals of any of the values may be replaced by what the report on the
definition shows for them; reading gives the same result and the same events. -/
theorem reported_ids_read_back :
    (∀ id : UInt64, ∃ hexadecimal decimal,
      IsShortNumeral 16 hexadecimal id.toNat ∧ IsShortNumeral 10 decimal id.toNat ∧
      idNotations id = ["0x" ++ String.ofList hexadecimal, String.ofList decimal]) ∧
    (∀ d : Definition, ∀ e ∈ d.enumeration?, ∀ value ∈ e.values, ∃ hexadecimal decimal,
      idNotations value.id = [hexadecimal, decimal] ∧
      "    " ++ (hexadecimal ++ " (" ++ decimal ++ ") = " ++ value.name) ∈ d.reportLines) ∧
    (∀ id, ∀ text ∈ idNotations id, ∀ front back, Blank front ∧ Blank back →
      idLiteral (front ++ text ++ back) = .ok id) ∧
    (∀ id other text, text ∈ idNotations id → text ∈ idNotations other → id = other) ∧
    ∀ root d, (Definition.ofNode root).result = .ok d → ∀ e ∈ d.enumeration?, ∀ literals,
      e.Shows literals →
      (∀ i,
        let idAt := fun root : Node =>
          (Enumeration.valueNodes (root.first "enum"))[i]?.bind (·.attribute? "id")
        idAt (root.withIdLiterals literals) = (literals i).or (idAt root)) ∧
      Definition.ofNode (root.withIdLiterals literals) = Definition.ofNode root := by
  refine ⟨?_, ?_, fun _ _ shown _ _ blank => idLiteral_of_mem_idNotations shown blank,
    fun _ _ _ => eq_of_mem_idNotations, ?_⟩
  · intro id
    have large : 1 < 16 ∧ 1 < 10 := by decide
    refine ⟨_, _, isShortNumeral_toDigits large.1 (by decide) _,
      isShortNumeral_toDigits large.2 (by decide) _, ?_⟩
    rw [idNotations, hexadecimal, decimal, ← String.ofList_append]
    rfl
  · intro d e has value member
    refine ⟨_, _, rfl, ?_⟩
    have line : "    " ++ value.report ∈ d.enumerationLines := by
      rw [enumerationLines, has, Option.elim_some]
      exact List.mem_cons_of_mem _ (List.mem_map_of_mem member)
    exact List.mem_append_right _ line
  · intro root d accepted e has literals shown
    exact ⟨id_of_withIdLiterals accepted has shown, ofNode_withIdLiterals accepted has shown⟩

/-- The ids zero and 2⁶⁴ - 1, the first replaced by its decimal notation and the second left alone. -/
theorem report_of_extreme_ids_reads_back :
    let tree := fun first second : String => plain "protocol" [] [leaf "protocolname" "p",
      plain "structure" [] [leaf "name" "s"],
      plain "header" [] [leaf "name" "h", leaf "id_field_name" "i"],
      plain "enum" [] [leaf "name" "e", plain "values" []
        [plain "value" [("id", first)] [.text "none"],
         plain "value" [("id", second)] [.text "all"]]]]
    let root := tree " 0x000" "+18446744073709551615"
    let e : Enumeration := ⟨"e", [⟨0, "none"⟩, ⟨18446744073709551615, "all"⟩]⟩
    let literals : Nat → Option String := fun i => if i = 0 then some "0" else none
    idNotations 0 = ["0x0", "0"] ∧
      idNotations 18446744073709551615 = ["0xffffffffffffffff", "18446744073709551615"] ∧
      idLiteral "\t0xffffffffffffffff " = .ok 18446744073709551615 ∧
      (Definition.ofNode root).result.map (·.enumeration?) = .ok (some e) ∧ e.Shows literals ∧
      Definition.ofNode (tree "0" "+18446744073709551615") = Definition.ofNode root := by
  intro tree root e literals
  obtain ⟨_, _, read, _, replaced⟩ := reported_ids_read_back
  let d : Definition := ⟨⟨"p", "p"⟩, ⟨"s", .standard, []⟩, ⟨"h", "i"⟩, some e⟩
  have accepted : (Definition.ofNode root).result = .ok d := by decide +kernel
  have extreme : "0xffffffffffffffff" ∈ idNotations 18446744073709551615 := by decide +kernel
  have notations : e.Shows literals := by
    intro i text given
    obtain ⟨rfl, same⟩ : i = 0 ∧ "0" = text := by simpa [literals] using given
    rw [← same]
    exact ⟨⟨0, "none"⟩, rfl, by decide +kernel⟩
  refine ⟨by decide +kernel, by decide +kernel, read _ _ extreme "\t" " " (by decide), ?_, notations,
    (replaced root d accepted e rfl literals notations).2⟩
  rw [accepted]
  rfl

end Definition

end WireSchema
