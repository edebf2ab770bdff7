import Mathlib.Data.List.DropRight
import WireSchema.Text.Blank

/-!
Trimming. A text is blank if it has blank characters only, and clean if it is not empty and has no
blank at either end. Trimming leaves nothing of a blank text and a clean text of any other; clean
texts are the ones that it keeps, and blanks around a text make no difference to it.
-/
namespace WireSchema.Text

def Blank (s : String) : Prop := ∀ c ∈ s.toList, isBlank c = true

instance (s : String) : Decidable (Blank s) :=
  List.decidableBAll (fun c => isBlank c = true) s.toList

structure Clean (s : String) : Prop where
  nonempty : s ≠ ""
  start : ∀ c ∈ s.toList.head?, isBlank c = false
  stop : ∀ c ∈ s.toList.getLast?, isBlank c = false

theorem trimStart_append_of_blank {blanks : List Char} (h : ∀ c ∈ blanks, isBlank c = true)
    (cs : List Char) : trimStart (blanks ++ cs) = trimStart cs :=
  List.dropWhile_append_of_pos h

theorem trimEnd_append_of_blank {blanks : List Char} (h : ∀ c ∈ blanks, isBlank c = true)
    (cs : List Char) : trimEnd (cs ++ blanks) = trimEnd cs := by
  have reversed : ∀ c ∈ blanks.reverse, isBlank c = true := by
    intro c member
    exact h c (List.mem_reverse.mp member)
  unfold trimEnd
  rw [List.reverse_append, trimStart_append_of_blank reversed]

theorem trimStart_eq_nil_iff {cs : List Char} :
    trimStart cs = [] ↔ ∀ c ∈ cs, isBlank c = true :=
  List.dropWhile_eq_nil_iff

theorem trimEnd_eq_nil_iff {cs : List Char} : trimEnd cs = [] ↔ ∀ c ∈ cs, isBlank c = true :=
  List.rdropWhile_eq_nil_iff

theorem trimStart_append_of_ne_nil {cs : List Char} (h : trimStart cs ≠ []) (more : List Char) :
    trimStart (cs ++ more) = trimStart cs ++ more := by
  unfold trimStart at h ⊢
  rw [List.dropWhile_append, if_neg (by simpa using h)]

theorem head_trimStart {cs : List Char} {c : Char} (h : (trimStart cs).head? = some c) :
    isBlank c = false := by
  have first := List.head?_dropWhile_not isBlank cs
  rw [show (cs.dropWhile isBlank).head? = some c from h] at first
  simpa using first

theorem last_trimEnd {cs : List Char} {c : Char} (h : (trimEnd cs).getLast? = some c) :
    isBlank c = false := by
  unfold trimEnd at h
  rw [List.getLast?_reverse] at h
  exact head_trimStart h

theorem head_trimEnd {cs : List Char} (h : trimEnd cs ≠ []) : (trimEnd cs).head? = cs.head? := by
  obtain ⟨dropped, whole⟩ : trimEnd cs <+: cs := List.rdropWhile_prefix isBlank cs
  cases kept : trimEnd cs with
  | nil => exact absurd kept h
  | cons c rest =>
    rw [kept] at whole
    rw [← whole]
    rfl

theorem trimStart_of_head {cs : List Char} (h : ∀ c ∈ cs.head?, isBlank c = false) :
    trimStart cs = cs := by
  cases cs with
  | nil => rfl
  | cons c rest => exact List.dropWhile_cons_of_neg (by simp [h c rfl])

theorem trimEnd_of_last {cs : List Char} (h : ∀ c ∈ cs.getLast?, isBlank c = false) :
    trimEnd cs = cs := by
  unfold trimEnd
  rw [trimStart_of_head (by simpa using h), List.reverse_reverse]

theorem trim_eq_empty_iff {s : String} : trim s = "" ↔ Blank s := by
  have empty : trim s = "" ↔ trimEnd (trimStart s.toList) = [] := by
    rw [← String.toList_inj, trim, String.toList_ofList]
    rfl
  rw [empty, trimEnd_eq_nil_iff]
  constructor
  · intro all
    apply trimStart_eq_nil_iff.mp
    cases kept : trimStart s.toList with
    | nil => rfl
    | cons c rest =>
      have blank := all c (by simp [kept])
      have solid := head_trimStart (by simp [kept] : (trimStart s.toList).head? = some c)
      rw [blank] at solid
      contradiction
  · intro blank c member
    rw [trimStart_eq_nil_iff.mpr blank] at member
    contradiction

theorem clean_trim {s : String} (h : ¬Blank s) : Clean (trim s) := by
  have left : trimEnd (trimStart s.toList) ≠ [] := by
    intro empty
    apply h
    rw [← trim_eq_empty_iff, trim, empty]
  refine ⟨fun empty => h (trim_eq_empty_iff.mp empty), ?_, ?_⟩
  · intro c first
    rw [trim, String.toList_ofList, head_trimEnd left] at first
    exact head_trimStart first
  · intro c last
    rw [trim, String.toList_ofList] at last
    exact last_trimEnd last

theorem clean_of_solid {s : String} (nonempty : s ≠ "")
    (solid : ∀ c ∈ s.toList, isBlank c = false) : Clean s where
  nonempty := nonempty
  start c first := solid c (List.mem_of_head? first)
  stop c last := solid c (List.mem_of_getLast? last)

theorem trim_of_clean {s : String} (h : Clean s) : trim s = s := by
  rw [trim, trimStart_of_head h.start, trimEnd_of_last h.stop, String.ofList_toList]

theorem exists_solid_of_not_blank {s : String} (h : ¬Blank s) :
    ∃ c ∈ s.toList, isBlank c = false := by
  simpa [Blank] using h

theorem not_blank_of_clean {s : String} (h : Clean s) : ¬Blank s := by
  intro blank
  apply h.nonempty
  rw [← trim_of_clean h]
  exact trim_eq_empty_iff.mpr blank

/-- Blanks around a text make no difference to what trimming leaves of it. -/
theorem trim_pad {before after : String} (hb : Blank before) (ha : Blank after) (s : String) :
    trim (before ++ s ++ after) = trim s := by
  unfold trim
  rw [String.toList_append, String.toList_append, List.append_assoc, trimStart_append_of_blank hb]
  by_cases blank : trimStart s.toList = []
  · have all : ∀ c ∈ s.toList, isBlank c = true := trimStart_eq_nil_iff.mp blank
    rw [trimStart_append_of_blank all, trimStart_eq_nil_iff.mpr ha, blank]
  · rw [trimStart_append_of_ne_nil blank, trimEnd_append_of_blank ha]

theorem trim_trim (s : String) : trim (trim s) = trim s := by
  by_cases blank : Blank s
  · rw [trim_eq_empty_iff.mpr blank]
    rfl
  · exact trim_of_clean (clean_trim blank)

theorem trimmed?_eq (s : String) : trimmed? s = if Blank s then none else some (trim s) := by
  unfold trimmed?
  by_cases blank : Blank s
  · rw [if_pos blank, trim_eq_empty_iff.mpr blank]
    rfl
  · have solid : (trim s).isEmpty = false := by
      rw [Bool.eq_false_iff, ne_eq, String.isEmpty_iff]
      exact fun empty => blank (trim_eq_empty_iff.mp empty)
    simp [blank, solid]

theorem trimmed?_empty : trimmed? "" = none := by
  rw [trimmed?_eq, if_pos]
  intro c member
  simp at member

theorem trimmed?_pad {before after : String} (hb : Blank before) (ha : Blank after) (s : String) :
    trimmed? (before ++ s ++ after) = trimmed? s := by
  unfold trimmed?
  rw [trim_pad hb ha]

end WireSchema.Text
