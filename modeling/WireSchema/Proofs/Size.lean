import Mathlib.Data.List.Perm.Subperm
import WireSchema.Definition.Parse
import WireSchema.Proofs.Reading
import WireSchema.Proofs.Widths
import WireSchema.Proofs.Written
import WireSchema.Proofs.Xml.Building

/-!
Size: every part of a definition takes nodes of its own in the tree that it is read from. So a limit
on the number of nodes limits the number of fields, and then the widths of all fields fit in 64 bits.
-/
namespace WireSchema
open Text Xml Xml.Node Agenda

namespace Xml.Node

theorem size_eq (node : Node) : node.size = 1 + sizes node.children := by
  cases node <;> simp [size, sizes, children]

theorem sizes_perm {as bs : List Node} (perm : as.Perm bs) : sizes as = sizes bs := by
  induction perm with
  | nil => rfl
  | cons node _ ih => rw [sizes, sizes, ih]
  | swap a b nodes => simp only [sizes, Nat.add_left_comm]
  | trans _ _ first second => exact first.trans second

theorem sizes_sublist {as bs : List Node} (sublist : as.Sublist bs) : sizes as ≤ sizes bs := by
  induction sublist with
  | slnil => exact Nat.le_refl _
  | cons node _ ih => exact Nat.le_add_left_of_le ih
  | cons_cons node _ ih => exact Nat.add_le_add_left ih _

theorem sizes_subperm {as bs : List Node} (subperm : as.Subperm bs) : sizes as ≤ sizes bs := by
  obtain ⟨cs, perm, sublist⟩ := subperm
  rw [← sizes_perm perm]
  exact sizes_sublist sublist

theorem mul_length_le_sizes {least : Nat} {nodes : List Node}
    (each : ∀ node ∈ nodes, least ≤ node.size) : least * nodes.length ≤ sizes nodes := by
  induction nodes with
  | nil => exact Nat.zero_le _
  | cons node nodes ih =>
    obtain ⟨here, later⟩ := List.forall_mem_cons.mp each
    rw [List.length_cons, Nat.mul_succ, Nat.add_comm, sizes]
    exact Nat.add_le_add here (ih later)

theorem size_le_sizes {node : Node} {nodes : List Node} (member : node ∈ nodes) :
    node.size ≤ sizes nodes := by
  have alone : sizes [node] ≤ sizes nodes := sizes_sublist (List.singleton_sublist.mpr member)
  simpa [sizes] using alone

/-- The fewest nodes of a list element and its items; without items it may be left out. -/
def listSize (least count : Nat) : Nat := if 0 < count then least * count + 1 else 0

theorem filter_others {name other : String} (differs : other ≠ name) (nodes : List Node) :
    (nodes.filter (!isNamed name ·)).filter (isNamed other) = nodes.filter (isNamed other) := by
  rw [List.filter_filter]
  apply List.filter_congr
  intro node _
  by_cases named : node.isNamed other = true
  · have off : node.isNamed name = false := by
      rw [isNamed, Bool.and_eq_true, beq_iff_eq] at named
      rw [isNamed, named.2, beq_false_of_ne differs, Bool.and_false]
    rw [named, off]
    rfl
  · rw [Bool.eq_false_iff.mpr named]
    rfl

/-- Children of different names are different nodes. -/
theorem elements_subperm {names : List String} (distinct : names.Nodup) (node : Node) :
    (names.flatMap node.elements).Subperm node.children := by
  unfold elements
  generalize node.children = nodes
  -- The children of the first name are set aside; the other names find theirs among the rest.
  induction names generalizing nodes with
  | nil => exact List.nil_subperm
  | cons name names ih =>
    obtain ⟨fresh, distinct⟩ := List.nodup_cons.mp distinct
    let others := nodes.filter (!isNamed name ·)
    have same : names.flatMap (fun other => nodes.filter (isNamed other)) =
        names.flatMap fun other => others.filter (isNamed other) := by
      apply List.flatMap_congr
      intro other member
      have differs : other ≠ name := by
        rintro rfl
        exact fresh member
      exact (filter_others differs nodes).symm
    rw [List.flatMap_cons, same]
    have among := (List.subperm_append_left (nodes.filter (isNamed name))).mpr (ih distinct others)
    exact among.trans (List.filter_append_perm _ nodes).subperm

theorem size_of_names {names : List String} (distinct : names.Nodup) (node : Node) :
    1 + sizes (names.flatMap node.elements) ≤ node.size := by
  rw [size_eq]
  exact Nat.add_le_add_left (sizes_subperm (elements_subperm distinct node)) 1

theorem size_of_two {first second : String} (differ : first ≠ second) (node : Node) :
    1 + sizes (node.elements first) + sizes (node.elements second) ≤ node.size := by
  have distinct : [first, second].Nodup := by simp [differ]
  have parts := size_of_names distinct node
  simp only [List.flatMap_cons, List.flatMap_nil, sizes_append, sizes] at parts
  omega

theorem size_first_le {node : Node} {name : String} (found : (node.child? name).isSome = true) :
    (node.first name).size ≤ sizes (node.elements name) := by
  obtain ⟨child, here⟩ := Option.isSome_iff_exists.mp found
  rw [first_of_child? here]
  rw [child?_eq_head?] at here
  exact size_le_sizes (List.mem_of_head? here)

theorem isSome_child? {node : Node} {name : String} (inside : (node.first name).children ≠ []) :
    (node.child? name).isSome = true := by
  unfold first at inside
  cases found : node.child? name with
  | none =>
    rw [found] at inside
    contradiction
  | some child => rfl

theorem children_ne_nil_of_text {node : Node} (filled : ¬Blank node.ownText) :
    node.children ≠ [] := by
  intro empty
  rw [ownText, empty] at filled
  exact filled (by decide)

theorem size_of_text {node : Node} (filled : ¬Blank node.ownText) : 2 ≤ node.size := by
  obtain ⟨child, children, same⟩ := List.exists_cons_of_ne_nil (children_ne_nil_of_text filled)
  rw [size_eq, same, sizes, size_eq]
  omega

theorem sizes_of_text {node : Node} {name : String} (filled : ¬Blank (node.textOf name)) :
    2 ≤ sizes (node.elements name) :=
  (size_of_text filled).trans (size_first_le (isSome_child? (children_ne_nil_of_text filled)))

theorem sizes_of_list {least : Nat} {node : Node} {list item : String}
    (each : ∀ found ∈ (node.first list).elements item, least ≤ found.size) :
    listSize least ((node.first list).elements item).length ≤ sizes (node.elements list) := by
  unfold listSize
  split
  · next occupied =>
    have filtered : ((node.first list).elements item).Sublist (node.first list).children :=
      List.filter_sublist
    have inside : (node.first list).children ≠ [] :=
      List.ne_nil_of_length_pos (occupied.trans_le filtered.length_le)
    calc
      _ ≤ sizes ((node.first list).elements item) + 1 :=
        Nat.add_le_add_right (mul_length_le_sizes each) 1
      _ ≤ 1 + sizes (node.first list).children := by
        rw [Nat.add_comm]
        exact Nat.add_le_add_left (sizes_sublist filtered) 1
      _ = (node.first list).size := (size_eq _).symm
      _ ≤ sizes (node.elements list) := size_first_le (isSome_child? inside)
  · exact Nat.zero_le _

end Xml.Node

theorem Layout.size_of_rules {node : Node} (kept : ∀ rule ∈ rules node, rule.holds = true) :
    3 + listSize 1 (describedBy node).fields.length ≤ node.size := by
  obtain ⟨filled, _⟩ := forall_mem_rules.mp kept
  have name := sizes_of_text (of_decide_eq_true filled)
  have fields : listSize 1 (fieldNodes node).length ≤ sizes (node.elements "fields") := by
    apply sizes_of_list
    intro found _
    rw [size_eq]
    exact Nat.le_add_right 1 _
  have parts := size_of_two (by decide : "name" ≠ "fields") node
  rw [describedBy, List.length_map]
  omega

theorem Header.size_of_rules {node : Node} (kept : ∀ rule ∈ rules node, rule.holds = true) :
    5 ≤ node.size := by
  simp only [rules, List.forall_mem_cons, decide_eq_true_eq] at kept
  have name := sizes_of_text kept.1
  have idFieldName := sizes_of_text kept.2.1
  have parts := size_of_two (by decide : "name" ≠ "id_field_name") node
  omega

theorem Enumeration.size_of_rules {node : Node} (kept : ∀ rule ∈ rules node, rule.holds = true) :
    3 + listSize 2 (describedBy node).values.length ≤ node.size := by
  obtain ⟨filled, inside⟩ := forall_mem_rules.mp kept
  have name := sizes_of_text (of_decide_eq_true filled)
  have values : listSize 2 (valueNodes node).length ≤ sizes (node.elements "values") := by
    apply sizes_of_list
    intro found among
    have own := inside found among
    simp only [EnumValue.rules, List.forall_mem_cons, decide_eq_true_eq] at own
    exact size_of_text own.2.2.1
  have parts := size_of_two (by decide : "name" ≠ "values") node
  rw [describedBy, List.length_map]
  omega

namespace Definition

/-- The fewest nodes of an element that is read as the definition. -/
def leastSize (d : Definition) : Nat :=
  11 + listSize 1 d.layout.fields.length +
    d.enumeration?.elim 0 fun enumeration => 3 + listSize 2 enumeration.values.length

theorem size_of_rules {root : Node} (kept : ∀ rule ∈ rules root, rule.holds = true) :
    (describedBy root).leastSize ≤ root.size := by
  obtain ⟨shape, named, inLayout, inHeader, inEnumeration⟩ := forall_mem_rules.mp kept
  simp only [shapeRules, List.forall_mem_cons] at shape
  obtain ⟨_, hasLayout, hasHeader, _⟩ := shape
  have name := sizes_of_text (of_decide_eq_true named)
  have layout := (Layout.size_of_rules inLayout).trans (size_first_le hasLayout)
  have header := (Header.size_of_rules inHeader).trans (size_first_le hasHeader)
  have enumeration : ((root.child? "enum").map Enumeration.describedBy).elim 0
      (fun e => 3 + listSize 2 e.values.length) ≤ sizes (root.elements "enum") := by
    cases found : root.child? "enum" with
    | none => exact Nat.zero_le _
    | some node =>
      have inside := size_first_le (found ▸ rfl : (root.child? "enum").isSome = true)
      rw [first_of_child? found] at inside
      exact (Enumeration.size_of_rules (inEnumeration node found)).trans inside
  have distinct : ["protocolname", "structure", "header", "enum"].Nodup := by decide
  have parts := size_of_names distinct root
  simp only [List.flatMap_cons, List.flatMap_nil, sizes_append, sizes] at parts
  simp only [leastSize, describedBy]
  omega

theorem leastSize_le {root : Node} {d : Definition}
    (accepted : (Definition.ofNode root).result = .ok d) : d.leastSize ≤ root.size := by
  obtain ⟨kept, rfl⟩ := ((ofNode_result_iff_rules root).1 d).mp accepted
  exact size_of_rules kept

end Definition

/-- Whether a reader gives no tree with more nodes than allowed, the document included. -/
def TreeReader.KeepsLimit (read : TreeReader) : Prop :=
  ∀ allowDoctype nodesLimit source tree,
    read allowDoctype nodesLimit source = .ok tree → tree.size ≤ nodesLimit.toNat

theorem Xml.Builder.one_lt_size {b : Builder} {tree : Node} (built : b.tree = .ok tree) :
    1 < b.size := by
  rw [← size_of_tree built]
  unfold Builder.tree at built
  split at built
  · cases built
  · split at built
    · next found =>
      cases built
      obtain ⟨root, member, _⟩ := List.any_eq_true.mp found
      have inside := size_le_sizes (List.mem_reverse.mpr member)
      rw [size_eq] at inside ⊢
      change 1 < 1 + sizes b.finished.reverse
      omega
    · cases built

theorem Xml.keepsLimit_read : TreeReader.KeepsLimit Xml.read := by
  intro allowDoctype nodesLimit source tree accepted
  obtain ⟨within, built⟩ := tree_of_read accepted
  have rooted := Builder.one_lt_size built
  rw [exceeds, Bool.and_eq_false_iff, decide_eq_false_iff_not, decide_eq_false_iff_not] at within
  rw [Builder.size_of_tree built]
  omega

namespace Definition
open Layout

theorem ofNode_of_parseBy {read : TreeReader} {config : Config} {source : String} {d : Definition}
    (accepted : parseBy read config source = .ok d) :
    ∃ tree root, read config.allowDoctype config.nodesLimit source = .ok tree ∧
      root ∈ tree.children ∧ (Definition.ofNode root).result = .ok d := by
  unfold parseBy traceBy at accepted
  cases long : config.lengthError? source with
  | some e =>
    rw [long] at accepted
    cases accepted
  | none =>
    rw [long] at accepted
    cases found : read config.allowDoctype config.nodesLimit source with
    | error e =>
      rw [found] at accepted
      cases accepted
    | ok tree =>
      rw [found] at accepted
      cases top : tree.rootElement? with
      | none =>
        simp only [top] at accepted
        cases accepted
      | some root =>
        simp only [top] at accepted
        exact ⟨tree, root, rfl, List.mem_of_find?_eq_some top, accepted⟩

/-- The definition of a tree within a limit has fewer fields than 32 bits can count. -/
theorem length_fields_lt {read : TreeReader} (keeps : read.KeepsLimit) {config : Config}
    {source : String} {d : Definition} (accepted : parseBy read config source = .ok d) :
    d.layout.fields.length < UInt32.size := by
  obtain ⟨tree, root, found, member, inside⟩ := ofNode_of_parseBy accepted
  have limited := keeps _ _ _ _ found
  have bound : config.nodesLimit.toNat < UInt32.size := config.nodesLimit.toNat_lt
  have part := size_le_sizes member
  have least := leastSize_le inside
  have fields : d.layout.fields.length ≤ listSize 1 d.layout.fields.length := by
    unfold listSize
    split <;> omega
  rw [size_eq] at limited
  rw [leastSize] at least
  omega

theorem exactWidth_lt {fields : List Field} (count : fields.length < UInt32.size) :
    exactWidth fields < UInt64.size :=
  exactWidth_lt_of_length_le (Nat.le_succ_of_le (Nat.le_of_lt count))

/-- A tree has the nodes that its definition needs. If a reader keeps the limit on nodes, what is read
through it has fields that 32 bits can count, and the sum of their widths and the offset of each are
exact in 64 bits. -/
theorem size_and_offsets_of_accepted :
    (∀ root d, (Definition.ofNode root).result = .ok d → d.leastSize ≤ root.size) ∧
    (∀ read : TreeReader, read.KeepsLimit → ∀ config source d, parseBy read config source = .ok d →
      d.layout.fields.length < UInt32.size ∧
      exactWidth d.layout.fields < UInt64.size ∧
      d.layout.totalBits.toNat = exactWidth d.layout.fields ∧
      ∀ (i : Nat) (offset : UInt64) (field : Field), d.layout.placed[i]? = some (offset, field) →
        offset.toNat = exactWidth (d.layout.fields.take i) ∧
        offset.toNat + field.bits.toNat < UInt64.size) := by
  refine ⟨fun root d => leastSize_le, ?_⟩
  intro read keeps config source d accepted
  have count := length_fields_lt keeps accepted
  have fits := exactWidth_lt count
  exact ⟨count, fits, toNat_totalBits fits, fun i offset field => exact_of_placed fits⟩

/-- A definition in as few nodes as it can have, read through a limit that leaves no room for another. -/
theorem read_in_least_size :
    let root := plain "protocol" [] [leaf "protocolname" "p",
      plain "structure" [] [leaf "name" "s",
        plain "fields" [] [plain "field" [("name", "a"), ("type", "t"), ("bits", "4294967295")] []]],
      plain "header" [] [leaf "name" "h", leaf "id_field_name" "a"]]
    let source := "<protocol><protocolname>p</protocolname><structure><name>s</name><fields>" ++
      "<field name='a' type='t' bits='4294967295'/></fields></structure>" ++
      "<header><name>h</name><id_field_name>a</id_field_name></header></protocol>"
    let config : Config := ⟨false, 14, none⟩
    let field : Field := ⟨"a", "t", 4294967295⟩
    let d : Definition := ⟨⟨"p", "p"⟩, ⟨"s", .bigEndian, [field]⟩, ⟨"h", "a"⟩, none⟩
    (Definition.ofNode root).result = .ok d ∧ root.size = 13 ∧ d.leastSize ≤ root.size ∧
      TreeReader.KeepsLimit Xml.read ∧ parseBy Xml.read config source = .ok d ∧
      d.layout.totalBits.toNat = exactWidth d.layout.fields ∧
      d.layout.placed[0]? = some (0, field) ∧ 0 + 4294967295 < UInt64.size := by
  intro root source config field d
  have accepted : (Definition.ofNode root).result = .ok d := by decide +kernel
  have parsed : parseBy Xml.read config source = .ok d := by decide +kernel
  have first : d.layout.placed[0]? = some (0, field) := rfl
  obtain ⟨bound, limits⟩ := size_and_offsets_of_accepted
  obtain ⟨_, _, exact, offsets⟩ := limits Xml.read keepsLimit_read config source d parsed
  exact ⟨accepted, rfl, bound root d accepted, keepsLimit_read, parsed, exact, first,
    (offsets 0 _ _ first).2⟩

end Definition

end WireSchema
