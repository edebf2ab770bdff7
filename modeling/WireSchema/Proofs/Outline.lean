import WireSchema.Proofs.Outline.Kind

/-!
Outlines are told apart by what is written of them, on one line as well as over lines. Their names have
to be made of letters and underscores; the texts in them may hold anything.
-/
namespace WireSchema
open Text

namespace Outline
variable {x y : List Char}

/-- Items set out one after another before a closing text that none of them looks like. -/
theorem flatMap_append_inj {α : Type} {write : α → List Char} {as bs : List α}
    (closing : List Char) (follows : List Char → Prop)
    (each : ∀ a ∈ as, ∀ b ∈ bs, ∀ x y, follows x → follows y → write a ++ x = write b ++ y →
      a = b ∧ x = y)
    (item : ∀ a x, follows (write a ++ x)) (close : ∀ x, follows (closing ++ x))
    (apart : ∀ a x y, write a ++ x ≠ closing ++ y)
    (same : as.flatMap write ++ (closing ++ x) = bs.flatMap write ++ (closing ++ y)) :
    as = bs ∧ x = y := by
  have after (cs : List α) (z : List Char) : follows (cs.flatMap write ++ (closing ++ z)) := by
    cases cs with
    | nil => exact close z
    | cons c cs =>
      rw [List.flatMap_cons, List.append_assoc]
      exact item c _
  induction as generalizing bs with
  | nil =>
    cases bs with
    | nil => exact ⟨rfl, List.append_cancel_left same⟩
    | cons b bs =>
      rw [List.flatMap_cons, List.append_assoc] at same
      exact absurd same.symm (apart b _ _)
  | cons a as ih =>
    rw [List.flatMap_cons, List.append_assoc] at same
    cases bs with
    | nil => exact absurd same (apart a _ _)
    | cons b bs =>
      rw [List.flatMap_cons, List.append_assoc] at same
      obtain ⟨rfl, items⟩ :=
        each a List.mem_cons_self b List.mem_cons_self _ _ (after as x) (after bs y) same
      have later : ∀ a ∈ as, ∀ b ∈ bs, ∀ x y, follows x → follows y → write a ++ x = write b ++ y →
          a = b ∧ x = y := by
        intro a ha b hb
        exact each a (List.mem_cons_of_mem _ ha) b (List.mem_cons_of_mem _ hb)
      obtain ⟨rfl, rest⟩ := ih later items
      exact ⟨rfl, rest⟩

theorem toList_join_cons {α : Type} (write : α → String) (a : α) (as : List α) :
    (", ".intercalate ((a :: as).map write)).toList =
      (write a).toList ++ as.flatMap fun a => ',' :: ' ' :: (write a).toList := by
  have split (first : List Char) (more : List (List Char)) :
      [',', ' '].intercalate (first :: more) = first ++ more.flatMap ([',', ' '] ++ ·) := by
    induction more generalizing first with
    | nil => simp
    | cons next more ih =>
      rw [List.intercalate_cons_cons, ih, List.flatMap_cons]
      simp
  rw [String.toList_intercalate, List.map_cons, List.map_cons, List.map_map,
    show ", ".toList = [',', ' '] from rfl, split, List.flatMap_map]
  rfl

/-- Items on one line, with commas between them, before a closing text that is no comma and that no
item starts with. -/
theorem join_append_inj {α : Type} {write : α → String} {as bs : List α} (closing : List Char)
    (each : ∀ a ∈ as, ∀ b ∈ bs, ∀ x y, Ends x → Ends y →
      (write a).toList ++ x = (write b).toList ++ y → a = b ∧ x = y)
    (ends : ∀ x, Ends (closing ++ x)) (comma : ∀ x y, ',' :: x ≠ closing ++ y)
    (apart : ∀ a ∈ as ++ bs, ∀ x y, Ends x → (write a).toList ++ x ≠ closing ++ y)
    (same : (", ".intercalate (as.map write)).toList ++ (closing ++ x) =
      (", ".intercalate (bs.map write)).toList ++ (closing ++ y)) : as = bs ∧ x = y := by
  have after (cs : List α) (z : List Char) :
      Ends ((cs.flatMap fun c => ',' :: ' ' :: (write c).toList) ++ (closing ++ z)) := by
    cases cs with
    | nil => exact ends z
    | cons c cs => exact ends_comma _
  cases as with
  | nil =>
    cases bs with
    | nil => exact ⟨rfl, List.append_cancel_left same⟩
    | cons b bs =>
      rw [toList_join_cons, List.append_assoc] at same
      exact absurd same.symm (apart b (by simp) _ _ (after bs y))
  | cons a as =>
    rw [toList_join_cons, List.append_assoc] at same
    cases bs with
    | nil => exact absurd same (apart a (by simp) _ _ (after as x))
    | cons b bs =>
      rw [toList_join_cons, List.append_assoc] at same
      obtain ⟨rfl, items⟩ :=
        each a List.mem_cons_self b List.mem_cons_self _ _ (after as x) (after bs y) same
      obtain ⟨rfl, rest⟩ := flatMap_append_inj closing Ends (by
        intro a ha b hb x y hx hy same
        simp only [List.cons_append, List.cons.injEq, true_and] at same
        exact each a (List.mem_cons_of_mem _ ha) b (List.mem_cons_of_mem _ hb) x y hx hy same)
        (fun _ _ => ends_comma _) ends (fun _ x y => comma _ _) items
      exact ⟨rfl, rest⟩

theorem compactFields_eq (fields : List (String × Outline)) :
    compactFields fields = fields.map fun field => field.1 ++ ": " ++ field.2.compact := by
  induction fields with
  | nil => rfl
  | cons field fields ih => rw [compactFields, ih, List.map_cons]

theorem compactItems_eq (items : List Outline) : compactItems items = items.map compact := by
  induction items with
  | nil => rfl
  | cons item items ih => rw [compactItems, ih, List.map_cons]

theorem toList_spreadFields (level : Nat) (fields : List (String × Outline)) :
    (spreadFields level fields).toList = fields.flatMap fun field => (indent level).toList ++
      (field.1.toList ++ ':' :: ' ' :: ((field.2.spreadAt level).toList ++ [',', '\n'])) := by
  induction fields with
  | nil => rfl
  | cons field fields ih =>
    rw [List.flatMap_cons, ← ih]
    simp [spreadFields]

theorem toList_spreadItems (level : Nat) (items : List Outline) :
    (spreadItems level items).toList = items.flatMap fun item =>
      (indent level).toList ++ ((item.spreadAt level).toList ++ [',', '\n']) := by
  induction items with
  | nil => rfl
  | cons item items ih =>
    rw [List.flatMap_cons, ← ih]
    simp [spreadItems]

/-- A part one level below is not taken for the closing bracket at the level. -/
theorem indent_succ_append_ne {level : Nat} (closing : Char) (solid : closing ≠ ' ') :
    (indent (level + 1)).toList ++ x ≠ (indent level).toList ++ closing :: y := by
  intro same
  have deeper : (indent (level + 1)).toList = (indent level).toList ++ List.replicate 4 ' ' := by
    rw [indent, indent, String.toList_ofList, String.toList_ofList, Nat.mul_succ,
      ← List.replicate_append_replicate]
  rw [deeper, List.append_assoc] at same
  have first := (List.cons.inj (List.append_cancel_left same)).1
  exact solid first.symm

theorem compact_ne_bracket {o : Outline} (named : o.WellNamed) (ends : Ends x) :
    o.compact.toList ++ x ≠ ']' :: y := by
  intro same
  have kind := kindOf?_written none named ends
  rw [written, same] at kind
  cases kind

/-- The outline can be told from whatever follows it, on one line and over lines. -/
def Told (o : Outline) : Prop :=
  ∀ (form : Option Nat) (p : Outline) (x y : List Char), p.WellNamed → Ends x → Ends y →
    (o.written form).toList ++ x = (p.written form).toList ++ y → o = p ∧ x = y

section Scalars

theorem told_number (n : Nat) : (number n).Told := by
  intro form p x y hp hx hy same
  have kinds := kind_eq_of_written (.number n) hp hx hy same
  cases hp with
  | number m =>
    have digits : (decimal n).toList ++ x = (decimal m).toList ++ y := by cases form <;> exact same
    obtain ⟨rfl, rest⟩ := decimal_append_inj hx.number hy.number digits
    exact ⟨rfl, rest⟩
  | _ => cases kinds

theorem told_text (s : String) : (text s).Told := by
  intro form p x y hp hx hy same
  have kinds := kind_eq_of_written (.text s) hp hx hy same
  cases hp with
  | text t =>
    have quoted : (quote s).toList ++ x = (quote t).toList ++ y := by cases form <;> exact same
    obtain ⟨rfl, rest⟩ := quote_append_inj quoted
    exact ⟨rfl, rest⟩
  | _ => cases kinds

theorem told_constant {name : String} (named : IsName name) : (constant name).Told := by
  intro form p x y hp hx hy same
  have kinds := kind_eq_of_written (.constant named) hp hx hy same
  cases hp with
  | @constant other named' =>
    have names : name.toList ++ x = other.toList ++ y := by cases form <;> exact same
    obtain ⟨rfl, rest⟩ := named.append_inj named' hx.name hy.name names
    exact ⟨rfl, rest⟩
  | _ => cases kinds

end Scalars

theorem told_variant {name : String} {part : Outline} (named : IsName name)
    (inside : part.WellNamed) (told : part.Told) : (variant name part).Told := by
  intro form p x y hp hx hy same
  have kinds := kind_eq_of_written (.variant named inside) hp hx hy same
  cases hp with
  | variant named' inside' =>
    cases form with
    | none =>
      simp only [written, compact, String.toList_append, String.reduceToList, List.append_assoc,
        List.cons_append, List.nil_append] at same
      obtain ⟨rfl, part⟩ := named.cons_inj named' (by decide) same
      obtain ⟨rfl, rest⟩ :=
        told none _ _ _ inside' (ends_parenthesis _) (ends_parenthesis _) part
      exact ⟨rfl, (List.cons.inj rest).2⟩
    | some level =>
      simp only [written, spreadAt, String.toList_append, String.reduceToList, List.append_assoc,
        List.cons_append, List.nil_append] at same
      obtain ⟨rfl, part⟩ := named.cons_inj named' (by decide) same
      obtain ⟨rfl, rest⟩ := told (some (level + 1)) _ _ _ inside' (ends_comma _) (ends_comma _)
        (List.append_cancel_left (List.cons.inj part).2)
      simp only [List.cons.injEq, true_and] at rest
      exact ⟨rfl, (List.cons.inj (List.append_cancel_left rest)).2⟩
  | _ => cases kinds

section Fields
variable {as bs : List (String × Outline)}

theorem field_append_inj (form : Option Nat) {a b : String × Outline} (ha : IsName a.1)
    (hb : IsName b.1) (told : a.2.Told) (inside : b.2.WellNamed) (hx : Ends x) (hy : Ends y)
    (same : a.1.toList ++ ':' :: ' ' :: ((a.2.written form).toList ++ x) =
      b.1.toList ++ ':' :: ' ' :: ((b.2.written form).toList ++ y)) : a = b ∧ x = y := by
  obtain ⟨labels, part⟩ := ha.cons_inj hb (by decide) same
  obtain ⟨parts, rest⟩ := told form b.2 x y inside hx hy (List.cons.inj part).2
  exact ⟨Prod.ext labels parts, rest⟩

theorem compactFields_append_inj (ha : ∀ a ∈ as, IsName a.1) (told : ∀ a ∈ as, a.2.Told)
    (hb : ∀ b ∈ bs, IsName b.1) (inside : ∀ b ∈ bs, b.2.WellNamed)
    (same : (", ".intercalate (compactFields as)).toList ++ ' ' :: '\x7d' :: x =
      (", ".intercalate (compactFields bs)).toList ++ ' ' :: '\x7d' :: y) : as = bs ∧ x = y := by
  rw [compactFields_eq, compactFields_eq] at same
  refine join_append_inj [' ', '\x7d'] ?_ (fun _ => ends_brace _) (by simp) ?_ same
  · intro a member b member' x y hx hy field
    simp only [String.toList_append, String.reduceToList, List.append_assoc, List.cons_append,
      List.nil_append] at field
    exact field_append_inj none (ha a member) (hb b member') (told a member)
      (inside b member') hx hy field
  · intro a member x y _
    have label : IsName a.1 := by
      rcases List.mem_append.mp member with left | right
      · exact ha a left
      · exact hb a right
    rw [String.toList_append, String.toList_append, List.append_assoc, List.append_assoc]
    exact label.append_ne_cons (by decide)

theorem spreadFields_append_inj {level : Nat} (ha : ∀ a ∈ as, IsName a.1)
    (told : ∀ a ∈ as, a.2.Told) (hb : ∀ b ∈ bs, IsName b.1) (inside : ∀ b ∈ bs, b.2.WellNamed)
    (same : (spreadFields (level + 1) as).toList ++ ((indent level).toList ++ '\x7d' :: x) =
      (spreadFields (level + 1) bs).toList ++ ((indent level).toList ++ '\x7d' :: y)) :
    as = bs ∧ x = y := by
  rw [toList_spreadFields, toList_spreadFields, List.append_cons (indent level).toList,
    List.append_cons (indent level).toList _ y] at same
  refine flatMap_append_inj _ (fun _ => True) ?_ (fun _ _ => trivial) (fun _ => trivial) ?_ same
  · intro a member b member' x y _ _ field
    simp only [List.append_assoc, List.cons_append, List.nil_append] at field
    obtain ⟨rfl, rest⟩ := field_append_inj (some (level + 1)) (ha a member) (hb b member')
      (told a member) (inside b member') (ends_comma _) (ends_comma _)
      (List.append_cancel_left field)
    simp only [List.cons.injEq, true_and] at rest
    exact ⟨rfl, rest⟩
  · intro a x y
    rw [List.append_assoc, List.append_assoc (indent level).toList]
    exact indent_succ_append_ne '\x7d' (by decide)

end Fields

theorem told_record {name : String} {fields : List (String × Outline)} (named : IsName name)
    (labels : ∀ field ∈ fields, IsName field.1) (inside : ∀ field ∈ fields, field.2.WellNamed)
    (told : ∀ field ∈ fields, field.2.Told) : (record name fields).Told := by
  intro form p x y hp hx hy same
  have kinds := kind_eq_of_written (.record named labels inside) hp hx hy same
  cases hp with
  | record named' labels' inside' =>
    cases form with
    | none =>
      simp only [written, compact, String.toList_append, String.reduceToList, List.append_assoc,
        List.cons_append, List.nil_append] at same
      obtain ⟨rfl, fields⟩ := named.cons_inj named' (by decide) same
      simp only [List.cons.injEq, true_and] at fields
      obtain ⟨rfl, rest⟩ := compactFields_append_inj labels told labels' inside' fields
      exact ⟨rfl, rest⟩
    | some level =>
      simp only [written, spreadAt, String.toList_append, String.reduceToList, List.append_assoc,
        List.cons_append, List.nil_append] at same
      obtain ⟨rfl, fields⟩ := named.cons_inj named' (by decide) same
      simp only [List.cons.injEq, true_and] at fields
      obtain ⟨rfl, rest⟩ := spreadFields_append_inj labels told labels' inside' fields
      exact ⟨rfl, rest⟩
  | _ => cases kinds

section Items
variable {as bs : List Outline}

theorem compactItems_append_inj (ha : ∀ a ∈ as, a.WellNamed) (told : ∀ a ∈ as, a.Told)
    (hb : ∀ b ∈ bs, b.WellNamed)
    (same : (", ".intercalate (compactItems as)).toList ++ ']' :: x =
      (", ".intercalate (compactItems bs)).toList ++ ']' :: y) : as = bs ∧ x = y := by
  rw [compactItems_eq, compactItems_eq] at same
  refine join_append_inj [']'] ?_ (fun _ => ends_bracket _) (by simp) ?_ same
  · intro a member b member' x y hx hy item
    exact told a member none b x y (hb b member') hx hy item
  · intro a member x y ends
    rcases List.mem_append.mp member with left | right
    · exact compact_ne_bracket (ha a left) ends
    · exact compact_ne_bracket (hb a right) ends

theorem spreadItems_append_inj {level : Nat} (told : ∀ a ∈ as, a.Told) (hb : ∀ b ∈ bs, b.WellNamed)
    (same : (spreadItems (level + 1) as).toList ++ ((indent level).toList ++ ']' :: x) =
      (spreadItems (level + 1) bs).toList ++ ((indent level).toList ++ ']' :: y)) :
    as = bs ∧ x = y := by
  rw [toList_spreadItems, toList_spreadItems, List.append_cons (indent level).toList,
    List.append_cons (indent level).toList _ y] at same
  refine flatMap_append_inj _ (fun _ => True) ?_ (fun _ _ => trivial) (fun _ => trivial) ?_ same
  · intro a member b member' x y _ _ item
    simp only [List.append_assoc, List.cons_append, List.nil_append] at item
    obtain ⟨rfl, rest⟩ := told a member (some (level + 1)) b _ _ (hb b member') (ends_comma _)
      (ends_comma _) (List.append_cancel_left item)
    simp only [List.cons.injEq, true_and] at rest
    exact ⟨rfl, rest⟩
  · intro a x y
    rw [List.append_assoc, List.append_assoc (indent level).toList]
    exact indent_succ_append_ne ']' (by decide)

end Items

/-- A list over lines, also in the form that an empty one has. -/
theorem toList_spreadAt_list (level : Nat) (items : List Outline) :
    ((list items).spreadAt level).toList = '[' :: (if items = [] then [']'] else
      '\n' :: ((spreadItems (level + 1) items).toList ++ ((indent level).toList ++ [']']))) := by
  cases items with
  | nil => simp [spreadAt]
  | cons item items => simp [spreadAt, spreadItems]

theorem told_list {items : List Outline} (inside : ∀ item ∈ items, item.WellNamed)
    (told : ∀ item ∈ items, item.Told) : (list items).Told := by
  intro form p x y hp hx hy same
  have kinds := kind_eq_of_written (.list inside) hp hx hy same
  cases hp with
  | @list items' inside' =>
    cases form with
    | none =>
      simp only [written, compact, String.toList_append, String.reduceToList, List.append_assoc,
        List.cons_append, List.nil_append, List.cons.injEq, true_and] at same
      obtain ⟨rfl, rest⟩ := compactItems_append_inj inside told inside' same
      exact ⟨rfl, rest⟩
    | some level =>
      rw [written, written, toList_spreadAt_list, toList_spreadAt_list] at same
      by_cases empty : items = [] <;> by_cases empty' : items' = []
      · simpa [empty, empty'] using same
      · simp [empty, empty'] at same
      · simp [empty, empty'] at same
      · simp only [if_neg empty, if_neg empty', List.cons_append, List.append_assoc, List.nil_append,
          List.cons.injEq, true_and] at same
        obtain ⟨rfl, rest⟩ := spreadItems_append_inj told inside' same
        exact ⟨rfl, rest⟩
  | _ => cases kinds

theorem WellNamed.told {o : Outline} (named : o.WellNamed) : o.Told := by
  induction named with
  | number n => exact told_number n
  | text s => exact told_text s
  | constant named => exact told_constant named
  | variant named inside ih => exact told_variant named inside ih
  | record named labels inside ih => exact told_record named labels inside ih
  | list inside ih => exact told_list inside ih

section Whole
variable {o p : Outline} (ho : o.WellNamed) (hp : p.WellNamed)
include ho hp

theorem spread_inj (same : o.spread = p.spread) : o = p := by
  refine (ho.told (some 0) p [] [] hp ends_nil ends_nil ?_).1
  rw [written, written]
  exact congrArg (·.toList ++ []) same

theorem compact_inj (same : o.compact = p.compact) : o = p := by
  refine (ho.told none p [] [] hp ends_nil ends_nil ?_).1
  rw [written, written]
  exact congrArg (·.toList ++ []) same

theorem kind_eq_of_spread_eq_compact (same : o.spread = p.compact) : o.kind = p.kind := by
  have kinds := kindOf?_written (some 0) ho ends_nil
  rw [written, show o.spreadAt 0 = p.compact from same] at kinds
  rw [← written, kindOf?_written none hp ends_nil] at kinds
  exact (Option.some.inj kinds).symm

end Whole

end Outline

end WireSchema
