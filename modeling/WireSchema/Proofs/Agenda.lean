import Mathlib.Data.List.TakeWhile
import WireSchema.Journal

/-!
Agendas: what a computation checks and records, laid out as a list of steps. A computation that
follows an agenda stops at the first check that fails, with the failure of that check and the entries
of the steps before it. Agendas of parts that run one after another are appended.
-/
namespace WireSchema

/-- A condition, and the failure of a computation that finds it broken. -/
structure Rule (Failure : Type) where
  holds : Bool
  failure : Failure

inductive Step (Entry Failure : Type)
  | check (rule : Rule Failure)
  | record (entry : Entry)

namespace Step
variable {Entry Failure : Type}

def passes : Step Entry Failure → Bool
  | check rule => rule.holds
  | record _ => true

def rule? : Step Entry Failure → Option (Rule Failure)
  | check rule => some rule
  | record _ => none

def entry? : Step Entry Failure → Option Entry
  | check _ => none
  | record entry => some entry

end Step

abbrev Agenda (Entry Failure : Type) := List (Step Entry Failure)

namespace Agenda
variable {Entry Failure α β : Type}

def checks (rules : List (Rule Failure)) : Agenda Entry Failure := rules.map .check

def rules (agenda : Agenda Entry Failure) : List (Rule Failure) := agenda.filterMap Step.rule?

/-- The steps before the first check that fails. -/
def passed (agenda : Agenda Entry Failure) : Agenda Entry Failure := agenda.takeWhile Step.passes

def entries (agenda : Agenda Entry Failure) : List Entry := agenda.filterMap Step.entry?

def firstBroken? (rules : List (Rule Failure)) : Option (Rule Failure) :=
  rules.find? (!·.holds)

theorem checks_flatMap {ι : Type} (items : List ι) (rules : ι → List (Rule Failure)) :
    (checks (items.flatMap rules) : Agenda Entry Failure) =
      items.flatMap fun item => checks (rules item) :=
  List.map_flatMap

theorem rules_checks (list : List (Rule Failure)) :
    (checks list : Agenda Entry Failure).rules = list := by
  unfold checks rules
  rw [List.filterMap_map]
  exact List.filterMap_some

theorem rules_record (entry : Entry) : rules ([.record entry] : Agenda Entry Failure) = [] := rfl

theorem rules_append (agenda rest : Agenda Entry Failure) :
    rules (agenda ++ rest) = rules agenda ++ rules rest := List.filterMap_append

theorem rules_flatMap {ι : Type} (items : List ι) (agenda : ι → Agenda Entry Failure) :
    rules (items.flatMap agenda) = items.flatMap fun item => rules (agenda item) :=
  List.filterMap_flatMap

theorem passes_iff_rules {agenda : Agenda Entry Failure} :
    (∀ step ∈ agenda, step.passes = true) ↔ ∀ rule ∈ agenda.rules, rule.holds = true := by
  unfold rules
  simp only [List.mem_filterMap]
  constructor
  · rintro pass rule ⟨step, member, found⟩
    cases step with
    | check other =>
      cases found
      exact pass _ member
    | record entry => cases found
  · intro hold step member
    cases step with
    | check rule => exact hold rule ⟨.check rule, member, rfl⟩
    | record entry => rfl

theorem entries_append (agenda rest : Agenda Entry Failure) :
    entries (agenda ++ rest) = entries agenda ++ entries rest := List.filterMap_append

theorem entries_checks (list : List (Rule Failure)) :
    (checks list : Agenda Entry Failure).entries = [] := by
  unfold checks entries
  rw [List.filterMap_map]
  exact List.filterMap_eq_nil_iff.mpr fun _ _ => rfl

theorem passed_of_rules {agenda : Agenda Entry Failure}
    (hold : ∀ rule ∈ agenda.rules, rule.holds = true) : agenda.passed = agenda :=
  List.takeWhile_eq_self_iff.mpr (passes_iff_rules.mpr hold)

theorem entries_passed_subset (agenda : Agenda Entry Failure) :
    agenda.passed.entries ⊆ agenda.entries :=
  List.filterMap_subset _ (List.takeWhile_subset _)

/-- Broken rules hold back all entries after them, and let no others through. -/
theorem entries_passed_of_broken {list : List (Rule Failure)}
    (broken : ∃ rule ∈ list, rule.holds = false) (agenda rest : Agenda Entry Failure) :
    entries (passed (agenda ++ checks list ++ rest)) = entries (passed agenda) := by
  have stop (before after : Agenda Entry Failure) (fails : ∃ step ∈ before, step.passes = false) :
      passed (before ++ after) = passed before := by
    unfold passed
    rw [List.takeWhile_append, if_neg]
    intro whole
    obtain ⟨step, member, fail⟩ := fails
    have same := (List.takeWhile_prefix Step.passes).eq_of_length whole
    have pass := List.mem_takeWhile_imp (same ▸ member)
    rw [fail] at pass
    contradiction
  have checked : ∃ step ∈ (checks list : Agenda Entry Failure), step.passes = false := by
    obtain ⟨rule, member, fail⟩ := broken
    exact ⟨.check rule, List.mem_map_of_mem member, fail⟩
  by_cases all : ∀ step ∈ agenda, step.passes = true
  · have nothing : entries (passed (checks list : Agenda Entry Failure)) = [] := by
      have inside := entries_passed_subset (checks list : Agenda Entry Failure)
      rw [entries_checks] at inside
      exact List.subset_nil.mp inside
    unfold passed at stop nothing ⊢
    rw [List.append_assoc, List.takeWhile_append_of_pos all, stop _ _ checked, entries_append,
      nothing, List.append_nil, List.takeWhile_eq_self_iff.mpr all]
  · rw [List.append_assoc, stop]
    simpa using all

/-- The computation that follows an agenda and gives a value at its end. -/
def run (agenda : Agenda Entry Failure) (a : α) : Journal Entry Failure α :=
  ⟨agenda.passed.entries, match firstBroken? agenda.rules with
    | none => .ok a
    | some rule => .error rule.failure⟩

theorem run_nil (a : α) : run ([] : Agenda Entry Failure) a = pure a := rfl

theorem run_check (rule : Rule Failure) (rest : Agenda Entry Failure) (a : α) :
    run (.check rule :: rest) a = if rule.holds then run rest a else .fail rule.failure := by
  unfold run firstBroken? passed entries rules
  cases found : rule.holds <;>
    simp [List.filterMap_cons, Step.rule?, Step.passes, Step.entry?, found, Journal.fail]

theorem run_record (entry : Entry) (rest : Agenda Entry Failure) (a : α) :
    run (.record entry :: rest) a = .record [entry] >>= fun _ => run rest a := by
  rw [Journal.record_bind]
  rfl

/-- A computation that follows an agenda, and after it one that follows another. -/
theorem run_bind (agenda rest : Agenda Entry Failure) {a : α} {b : β}
    {f : α → Journal Entry Failure β} (after : f a = run rest b) :
    run agenda a >>= f = run (agenda ++ rest) b := by
  induction agenda with
  | nil => rw [run_nil, pure_bind, after, List.nil_append]
  | cons step steps ih =>
    rw [List.cons_append]
    cases step with
    | check rule =>
      rw [run_check, run_check, ← ih]
      cases rule.holds <;> rfl
    | record entry => rw [run_record, run_record, bind_assoc, ← ih]

theorem run_append (agenda rest : Agenda Entry Failure) (a : α) :
    run (agenda ++ rest) a = run agenda () >>= fun _ => run rest a :=
  (run_bind (f := fun _ => run rest a) agenda rest rfl).symm

theorem run_map (agenda : Agenda Entry Failure) (a : α) (f : α → β) :
    f <$> run agenda a = run agenda (f a) := by
  calc f <$> run agenda a
    _ = run agenda a >>= fun a => pure (f a) := map_eq_pure_bind f (run agenda a)
    _ = run (agenda ++ []) (f a) := run_bind agenda [] rfl
    _ = run agenda (f a) := by rw [List.append_nil]

/-- Items handled one after another, each by its own agenda. -/
theorem mapM_run {ι : Type} (agenda : ι → Agenda Entry Failure) (value : ι → α) (items : List ι) :
    items.mapM (fun item => run (agenda item) (value item)) =
      run (items.flatMap agenda) (items.map value) := by
  induction items with
  | nil => rfl
  | cons item items ih =>
    rw [List.mapM_cons, List.flatMap_cons, List.map_cons]
    apply run_bind
    rw [ih, ← map_eq_pure_bind, run_map]

theorem require_eq_run [Inhabited α] {P : Prop} [Decidable P] (failure : Failure)
    (found? : Option α) (found : found?.isSome = true ↔ P) :
    (Journal.require failure found? : Journal Entry Failure α) =
      run [.check ⟨P, failure⟩] (found?.getD default) := by
  rw [run_check]
  cases found? with
  | none =>
    rw [if_neg (by simpa using found)]
    rfl
  | some a =>
    rw [if_pos (by simpa using found)]
    rfl

theorem run_result_eq_ok_iff {agenda : Agenda Entry Failure} {a b : α} :
    (run agenda a).result = .ok b ↔ (∀ rule ∈ agenda.rules, rule.holds = true) ∧ b = a := by
  unfold run firstBroken?
  cases found : agenda.rules.find? (!·.holds) with
  | none =>
    have all : ∀ rule ∈ agenda.rules, rule.holds = true := by simpa using found
    simp only [Except.ok.injEq]
    exact ⟨fun same => ⟨all, same.symm⟩, fun both => both.2.symm⟩
  | some rule =>
    simp only [reduceCtorEq, false_iff, not_and]
    intro all
    have broken := List.find?_some found
    rw [all rule (List.mem_of_find?_eq_some found)] at broken
    contradiction

theorem run_result_eq_error_iff {agenda : Agenda Entry Failure} {a : α} {failure : Failure} :
    (run agenda a).result = .error failure ↔
      ∃ before rule after, agenda.rules = before ++ rule :: after ∧
        (∀ other ∈ before, other.holds = true) ∧ rule.holds = false ∧ rule.failure = failure := by
  have first (rule : Rule Failure) : firstBroken? agenda.rules = some rule ↔
      rule.holds = false ∧ ∃ before after, agenda.rules = before ++ rule :: after ∧
        ∀ other ∈ before, other.holds = true := by
    unfold firstBroken?
    simp [List.find?_eq_some_iff_append]
  unfold run
  constructor
  · intro failed
    cases found : firstBroken? agenda.rules with
    | none => simp [found] at failed
    | some rule =>
      obtain ⟨broken, before, after, split, kept⟩ := (first rule).mp found
      exact ⟨before, rule, after, split, kept, broken, by simpa [found] using failed⟩
  · rintro ⟨before, rule, after, split, kept, broken, rfl⟩
    rw [(first rule).mpr ⟨broken, before, after, split, kept⟩]

/-- A computation that fails has recorded what stands before the check at which it failed. -/
theorem run_stopped {agenda : Agenda Entry Failure} {a : α} {failure : Failure}
    (failed : (run agenda a).result = .error failure) :
    ∃ (done : Agenda Entry Failure) (rule : Rule Failure) (rest : Agenda Entry Failure),
      agenda = done ++ .check rule :: rest ∧ (∀ other ∈ done.rules, other.holds = true) ∧
      rule.holds = false ∧ rule.failure = failure ∧ (run agenda a).entries = done.entries := by
  induction agenda with
  | nil => cases failed
  | cons step steps ih =>
    cases step with
    | check rule =>
      rw [run_check] at failed ⊢
      by_cases holds : rule.holds = true
      · rw [if_pos holds] at failed ⊢
        obtain ⟨done, other, rest, rfl, kept, broken, same, recorded⟩ := ih failed
        refine ⟨.check rule :: done, other, rest, rfl, ?_, broken, same, recorded⟩
        intro earlier member
        rcases List.mem_cons.mp member with rfl | inside
        · exact holds
        · exact kept earlier inside
      · rw [if_neg holds] at failed ⊢
        refine ⟨[], rule, steps, rfl, ?_, by simpa using holds, Except.error.inj failed, rfl⟩
        intro other member
        contradiction
    | record entry =>
      rw [run_record, Journal.record_bind] at failed ⊢
      obtain ⟨done, other, rest, rfl, kept, broken, same, recorded⟩ := ih failed
      exact ⟨.record entry :: done, other, rest, rfl, kept, broken, same,
        congrArg (entry :: ·) recorded⟩

/-- A check that has been made before need not be made again. -/
theorem run_check_again {agenda : Agenda Entry Failure} {rule : Rule Failure}
    (made : .check rule ∈ agenda) (rest : Agenda Entry Failure) (a : α) :
    run (agenda ++ .check rule :: rest) a = run (agenda ++ rest) a := by
  -- By induction up to the earlier check: where that one holds, the later one holds as well.
  induction agenda with
  | nil => contradiction
  | cons step steps ih =>
    rw [List.cons_append, List.cons_append]
    rcases List.mem_cons.mp made with rfl | later
    · rw [run_check, run_check]
      cases holds : rule.holds with
      | false => rfl
      | true =>
        rw [if_pos rfl, if_pos rfl, run_append, run_append, run_check, if_pos holds]
    · cases step with
      | check other => rw [run_check, run_check, ih later]
      | record entry => rw [run_record, run_record, ih later]

end Agenda

end WireSchema
