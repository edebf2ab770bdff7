import WireSchema.Outline
import WireSchema.Proofs.Text.Quoted

/-!
What an outline starts and ends with. Its first character and what follows its name give away its kind,
and it ends before anything that does not go on with a number or a name nor opens parts.
-/
namespace WireSchema
open Text

namespace Outline
variable {x y : List Char}

def isNameChar (c : Char) : Bool := c.isAlpha || c == '_'

def IsName (name : String) : Prop := name ≠ "" ∧ ∀ c ∈ name.toList, isNameChar c = true

instance (name : String) : Decidable (IsName name) :=
  decidable_of_iff (name ≠ "" ∧ name.toList.all isNameChar = true) <| by
    rw [IsName, List.all_eq_true]

theorem toNat_le_of_isDigit {c : Char} (digit : isDigit 10 c = true) : c.toNat ≤ '9'.toNat := by
  obtain ⟨d, value⟩ := Option.isSome_iff_exists.mp digit
  obtain ⟨found, small⟩ := Option.filter_eq_some_iff.mp value
  -- Letters have values from ten on.
  have under : d < 10 := of_decide_eq_true small
  split at found
  next decimal => exact decimal.2
  next =>
    split at found
    next =>
      cases found
      omega
    next =>
      split at found
      next =>
        cases found
        omega
      next => cases found

theorem not_isDigit_of_isNameChar {c : Char} (name : isNameChar c = true) :
    isDigit 10 c = false := by
  have above : '9'.toNat < c.toNat := by
    rcases Bool.or_eq_true_iff.mp name with letter | mark
    · rcases Bool.or_eq_true_iff.mp letter with upper | lower
      · have range : 'A'.val ≤ c.val ∧ c.val ≤ 'Z'.val := of_decide_eq_true upper
        exact Nat.lt_of_lt_of_le (by decide) range.1
      · obtain ⟨low, _⟩ := Bool.and_eq_true_iff.mp lower
        have low : 'a'.val ≤ c.val := of_decide_eq_true low
        exact Nat.lt_of_lt_of_le (by decide) low
    · rw [beq_iff_eq.mp mark]
      decide
  rw [Bool.eq_false_iff]
  intro digit
  have bound := toNat_le_of_isDigit digit
  omega

/-- All names in the outline are made of letters and underscores. -/
inductive WellNamed : Outline → Prop
  | number (n : Nat) : WellNamed (.number n)
  | text (s : String) : WellNamed (.text s)
  | constant {name : String} (named : IsName name) : WellNamed (.constant name)
  | variant {name : String} {part : Outline} (named : IsName name) (inside : WellNamed part) :
    WellNamed (.variant name part)
  | record {name : String} {fields : List (String × Outline)} (named : IsName name)
    (labels : ∀ field ∈ fields, IsName field.1) (inside : ∀ field ∈ fields, WellNamed field.2) :
    WellNamed (.record name fields)
  | list {items : List Outline} (inside : ∀ item ∈ items, WellNamed item) : WellNamed (.list items)

/-- What may follow an outline: nothing that continues a number or a name, nor opens its parts. -/
structure Ends (rest : List Char) : Prop where
  number : Stops (isDigit 10) rest
  name : Stops isNameChar rest
  variant : ∀ more, rest ≠ '(' :: more
  record : ∀ more, rest ≠ ' ' :: '\x7b' :: more

theorem ends_nil : Ends [] := ⟨stops_nil _, stops_nil _, by simp, by simp⟩

theorem ends_comma (rest : List Char) : Ends (',' :: rest) := by
  refine ⟨?_, ?_, by simp, by simp⟩ <;> rw [stops_cons] <;> decide

theorem ends_parenthesis (rest : List Char) : Ends (')' :: rest) := by
  refine ⟨?_, ?_, by simp, by simp⟩ <;> rw [stops_cons] <;> decide

theorem ends_bracket (rest : List Char) : Ends (']' :: rest) := by
  refine ⟨?_, ?_, by simp, by simp⟩ <;> rw [stops_cons] <;> decide

theorem ends_brace (rest : List Char) : Ends (' ' :: '\x7d' :: rest) := by
  refine ⟨?_, ?_, by simp, by simp⟩ <;> rw [stops_cons] <;> decide

theorem IsName.append_inj {s t : String} (hs : IsName s) (ht : IsName t)
    (hx : Stops isNameChar x) (hy : Stops isNameChar y)
    (same : s.toList ++ x = t.toList ++ y) : s = t ∧ x = y := by
  obtain ⟨names, rest⟩ := run_append_inj hs.2 ht.2 hx hy same
  exact ⟨String.toList_inj.mp names, rest⟩

/-- A name ends at a character that no name has. -/
theorem IsName.cons_inj {s t : String} (hs : IsName s) (ht : IsName t) {stop : Char}
    (other : isNameChar stop = false) (same : s.toList ++ stop :: x = t.toList ++ stop :: y) :
    s = t ∧ x = y := by
  have stops (cs : List Char) : Stops isNameChar (stop :: cs) := (stops_cons _ _ _).mpr other
  obtain ⟨names, rest⟩ := hs.append_inj ht (stops x) (stops y) same
  exact ⟨names, (List.cons.inj rest).2⟩

theorem IsName.exists_cons {name : String} (named : IsName name) :
    ∃ c cs, name.toList = c :: cs ∧ isNameChar c = true := by
  cases chars : name.toList with
  | nil => exact absurd (by simpa using chars) named.1
  | cons c cs => exact ⟨c, cs, rfl, named.2 c (by simp [chars])⟩

theorem IsName.append_ne_cons {name : String} (named : IsName name) {stop : Char}
    (other : isNameChar stop = false) : name.toList ++ x ≠ stop :: y := by
  obtain ⟨c, cs, chars, first⟩ := named.exists_cons
  rw [chars]
  intro same
  rw [(List.cons.inj same).1, other] at first
  contradiction

inductive Kind
  | number
  | text
  | constant
  | variant
  | record
  | list

def kind : Outline → Kind
  | .number _ => .number
  | .text _ => .text
  | .constant _ => .constant
  | .variant _ _ => .variant
  | .record _ _ => .record
  | .list _ => .list

/-- The kind of an outline that starts with a name, by what follows the name. -/
def kindAfterName : List Char → Kind
  | '(' :: _ => .variant
  | ' ' :: '\x7b' :: _ => .record
  | _ => .constant

/-- The kind of an outline that a text starts with, by the first character and what follows a name. -/
def kindOf? : List Char → Option Kind
  | [] => none
  | c :: cs =>
    if isNameChar c then some (kindAfterName (cs.dropWhile isNameChar))
    else if isDigit 10 c then some .number
    else if c = '"' then some .text
    else if c = '[' then some .list
    else none

theorem kindOf?_decimal (n : Nat) (rest : List Char) :
    kindOf? ((decimal n).toList ++ rest) = some .number := by
  have denoted : Denotes 10 (Nat.toDigits 10 n) n := denotes_toDigits (by decide) (by decide) n
  rw [decimal, String.toList_ofList]
  cases digits : Nat.toDigits 10 n with
  | nil => exact absurd digits denoted.ne_nil
  | cons c cs =>
    have digit : isDigit 10 c = true := denoted.isDigit c (by simp [digits])
    have unnamed : ¬isNameChar c = true := by
      intro named
      rw [not_isDigit_of_isNameChar named] at digit
      contradiction
    rw [List.cons_append, kindOf?, if_neg unnamed, if_pos digit]

theorem kindOf?_name {name : String} (named : IsName name) {rest : List Char}
    (stop : Stops isNameChar rest) :
    kindOf? (name.toList ++ rest) = some (kindAfterName rest) := by
  obtain ⟨c, cs, chars, first⟩ := named.exists_cons
  have later : ∀ d ∈ cs, isNameChar d = true := fun d member => named.2 d (by simp [chars, member])
  rw [chars, List.cons_append, kindOf?, if_pos first, dropWhile_append_of_stops later stop]

theorem kindOf?_constant {name : String} (named : IsName name) {rest : List Char}
    (ends : Ends rest) : kindOf? (name.toList ++ rest) = some .constant := by
  rw [kindOf?_name named ends.name]
  unfold kindAfterName
  split
  next more => exact absurd rfl (ends.variant more)
  next more => exact absurd rfl (ends.record more)
  next => rfl

theorem kindOf?_variant {name : String} (named : IsName name) (rest : List Char) :
    kindOf? (name.toList ++ '(' :: rest) = some .variant :=
  kindOf?_name named ((stops_cons _ _ _).mpr (by decide))

theorem kindOf?_record {name : String} (named : IsName name) (rest : List Char) :
    kindOf? (name.toList ++ ' ' :: '\x7b' :: rest) = some .record :=
  kindOf?_name named ((stops_cons _ _ _).mpr (by decide))

theorem kindOf?_quote (s : String) (rest : List Char) :
    kindOf? ((quote s).toList ++ rest) = some .text := by
  rw [quote, String.toList_ofList]
  rfl

/-- The outline on one line, or spread over lines from a level on. -/
def written : Option Nat → Outline → String
  | none, o => o.compact
  | some level, o => o.spreadAt level

theorem kindOf?_written (form : Option Nat) {o : Outline} (named : o.WellNamed) {rest : List Char}
    (ends : Ends rest) : kindOf? ((o.written form).toList ++ rest) = some o.kind := by
  cases named with
  | number n => cases form <;> exact kindOf?_decimal n rest
  | text s => cases form <;> exact kindOf?_quote s rest
  | constant named => cases form <;> exact kindOf?_constant named ends
  | variant named inside =>
    cases form <;> simp only [written, compact, spreadAt, String.toList_append, String.reduceToList,
      List.append_assoc, List.cons_append] <;> exact kindOf?_variant named _
  | record named labels inside =>
    cases form <;> simp only [written, compact, spreadAt, String.toList_append, String.reduceToList,
      List.append_assoc, List.cons_append] <;> exact kindOf?_record named _
  | @list items inside =>
    cases form with
    | none =>
      rw [written, compact, String.toList_append, String.toList_append]
      rfl
    | some level =>
      cases items with
      | nil =>
        rw [written, spreadAt]
        rfl
      | cons item items =>
        simp only [written, spreadAt, String.toList_append, List.append_assoc]
        rfl

theorem kind_eq_of_written {form : Option Nat} {o p : Outline} (ho : o.WellNamed)
    (hp : p.WellNamed) (hx : Ends x) (hy : Ends y)
    (same : (o.written form).toList ++ x = (p.written form).toList ++ y) : o.kind = p.kind := by
  have kinds := kindOf?_written form ho hx
  rw [same, kindOf?_written form hp hy] at kinds
  exact (Option.some.inj kinds).symm

end Outline

end WireSchema
