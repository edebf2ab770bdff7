import WireSchema.Definition.ShortName
import WireSchema.Proofs.Reading
import WireSchema.Proofs.Text.Words

/-!
Short names. Words are made of characters that are not blank, and lower case makes no blanks, so the
initials of a name have none. A clean name has a clean short name.
-/
namespace WireSchema
open Text

namespace Text

/-- No run of case mappings leads to a blank. -/
theorem caseRuns_miss_blanks : ∀ run ∈ caseRuns, ∀ range ∈ blankRanges,
    run.last + run.shift < range.1 ∨ range.2 < run.first + run.shift := by
  decide +kernel

private theorem toNat_ofNat_cases (n : Nat) :
    (Char.ofNat n).toNat = n ∨ (Char.ofNat n).toNat = 0 := by
  unfold Char.ofNat
  by_cases valid : n.isValidChar
  · rw [dif_pos valid]
    exact .inl rfl
  · rw [dif_neg valid]
    exact .inr rfl

theorem lowercase_ne_nil (c : Char) : lowercase c ≠ [] := by
  unfold lowercase
  split
  · exact List.cons_ne_nil _ _
  · split <;> exact List.cons_ne_nil _ _

theorem not_blank_of_mem_lowercase {c d : Char} (solid : isBlank c = false)
    (member : d ∈ lowercase c) : isBlank d = false := by
  unfold lowercase at member
  split at member
  next =>
    rcases List.mem_cons.mp member with rfl | last
    · decide
    · rw [List.mem_singleton.mp last]
      decide
  next =>
    split at member
    next => rw [List.mem_singleton.mp member, solid]
    next run found =>
      rw [List.mem_singleton.mp member, Bool.eq_false_iff]
      intro blank
      obtain ⟨range, listed, low, high⟩ := (Ranges.contains_iff _ _).mp blank
      have positive : ∀ range ∈ blankRanges, 0 < range.1 := by decide
      have start := positive range listed
      have apart := caseRuns_miss_blanks run (List.mem_of_find?_eq_some found) range listed
      have covered := List.find?_some found
      simp only [CaseRun.covers, Bool.and_eq_true, decide_eq_true_eq] at covered
      -- A number that is no code point becomes the character zero, which is not blank either.
      rcases toNat_ofNat_cases (c.toNat + run.shift).toNat with same | zero
      · rw [same] at low high
        omega
      · omega

end Text

theorem not_blank_of_mem_initials {cs : List Char} {c : Char} (member : c ∈ initials cs) :
    isBlank c = false := by
  obtain ⟨first, inside, mapped⟩ := List.mem_flatMap.mp member
  obtain ⟨w, word, head⟩ := List.mem_filterMap.mp inside
  exact not_blank_of_mem_lowercase ((mem_words word).2 first (List.mem_of_head? head)) mapped

theorem initials_ne_nil {cs : List Char} (solid : ∃ c ∈ cs, isBlank c = false) :
    initials cs ≠ [] := by
  unfold initials
  cases found : words cs with
  | nil =>
    obtain ⟨c, member, notBlank⟩ := solid
    rw [words_eq_nil_iff.mp found c member] at notBlank
    contradiction
  | cons w rest =>
    have word : w ∈ words cs := by simp [found]
    cases w with
    | nil => exact absurd rfl (mem_words word).1
    | cons c w =>
      rw [List.filterMap_cons, List.head?_cons, List.flatMap_cons]
      intro empty
      exact lowercase_ne_nil c (List.append_eq_nil_iff.mp empty).1

theorem initials_eq_flatMap (cs : List Char) :
    initials cs = (words cs).flatMap fun word => word.head?.elim [] lowercase := by
  unfold initials
  induction words cs with
  | nil => rfl
  | cons word rest ih =>
    rw [List.filterMap_cons, List.flatMap_cons, ← ih]
    cases word.head? <;> rfl

theorem initials_append_blanks_append {blanks : List Char} (nonempty : blanks ≠ [])
    (blank : ∀ c ∈ blanks, isBlank c = true) (cs ds : List Char) :
    initials (cs ++ blanks ++ ds) = initials cs ++ initials ds := by
  simp only [initials_eq_flatMap, words_append_blanks_append nonempty blank, List.flatMap_append]

def HasBlank (s : String) : Prop := ∃ c ∈ s.toList, isBlank c = true

section
variable {name : String}

theorem toList_shortNameOf (blank : HasBlank name) :
    (shortNameOf name).toList = initials name.toList := by
  rw [shortNameOf, if_pos (by simpa [HasBlank] using blank), String.toList_ofList]

theorem shortNameOf_of_solid (solid : ∀ c ∈ name.toList, isBlank c = false) :
    shortNameOf name = name := by
  rw [shortNameOf, if_neg (by simpa using solid)]

theorem solid_of_not_hasBlank (solid : ¬HasBlank name) : ∀ c ∈ name.toList, isBlank c = false := by
  simpa [HasBlank] using solid

theorem solid_shortNameOf (name : String) : ∀ c ∈ (shortNameOf name).toList, isBlank c = false := by
  by_cases blank : HasBlank name
  · rw [toList_shortNameOf blank]
    exact fun c => not_blank_of_mem_initials
  · have solid := solid_of_not_hasBlank blank
    rwa [shortNameOf_of_solid solid]

theorem shortNameOf_eq_empty_iff : shortNameOf name = "" ↔ Blank name := by
  constructor
  · intro empty
    by_contra some
    have solid := exists_solid_of_not_blank some
    by_cases blank : HasBlank name
    · have nothing := toList_shortNameOf blank
      rw [empty] at nothing
      exact initials_ne_nil solid nothing.symm
    · rw [shortNameOf_of_solid (solid_of_not_hasBlank blank)] at empty
      obtain ⟨c, member, _⟩ := solid
      simp [empty] at member
  · intro all
    by_cases blank : HasBlank name
    · rw [← String.toList_inj, toList_shortNameOf blank, initials, words_of_blank all]
      rfl
    · rw [shortNameOf_of_solid (solid_of_not_hasBlank blank), ← String.toList_inj]
      apply List.eq_nil_iff_forall_not_mem.mpr
      exact fun c member => blank ⟨c, member, all c member⟩

/-- A clean name has a clean short name, whether it is its own or made of initials. -/
theorem clean_shortNameOf (clean : Clean name) : Clean (shortNameOf name) :=
  clean_of_solid (mt shortNameOf_eq_empty_iff.mp (not_blank_of_clean clean)) (solid_shortNameOf name)

theorem shortNameOf_shortNameOf (name : String) : shortNameOf (shortNameOf name) = shortNameOf name :=
  shortNameOf_of_solid (solid_shortNameOf name)

end

section
variable {a b between : String}

theorem toList_shortNameOf_append (nonempty : between ≠ "") (blank : Blank between) (a b : String) :
    (shortNameOf (a ++ between ++ b)).toList = initials a.toList ++ initials b.toList := by
  have inhabited : between.toList ≠ [] := by simpa using nonempty
  obtain ⟨c, member⟩ := List.exists_mem_of_ne_nil _ inhabited
  have inside : HasBlank (a ++ between ++ b) := ⟨c, by simp [member], blank c member⟩
  rw [toList_shortNameOf inside, String.toList_append, String.toList_append,
    initials_append_blanks_append inhabited blank]

theorem shortNameOf_append (ha : HasBlank a) (hb : HasBlank b) (nonempty : between ≠ "")
    (blank : Blank between) :
    shortNameOf (a ++ between ++ b) = shortNameOf a ++ shortNameOf b := by
  rw [← String.toList_inj, toList_shortNameOf_append nonempty blank, String.toList_append,
    toList_shortNameOf ha, toList_shortNameOf hb]

end

theorem Protocol.shortName_of_read {root : Xml.Node} {protocol : Protocol}
    (read : (Protocol.ofNode root).result = .ok protocol) :
    protocol.shortName ≠ "" ∧
      protocol.shortName = (root.childText? "protocolshort").getD (shortNameOf protocol.name) := by
  rw [Protocol.ofNode_eq_run, Agenda.run_result_eq_ok_iff] at read
  obtain ⟨kept, rfl⟩ := read
  have named : ¬Blank (root.textOf "protocolname") := by
    have holds := kept (nameRule root) List.mem_cons_self
    simpa [nameRule] using holds
  have name : (describedBy root).name = trim (root.textOf "protocolname") := rfl
  have source : (describedBy root).shortName =
      if Blank (root.textOf "protocolshort") then shortNameOf (describedBy root).name
      else trim (root.textOf "protocolshort") := rfl
  rw [source, Xml.Node.childText?_eq_trimmed?, trimmed?_eq]
  by_cases missing : Blank (root.textOf "protocolshort")
  · rw [if_pos missing, if_pos missing, Option.getD_none, name]
    exact ⟨(clean_shortNameOf (clean_trim named)).nonempty, rfl⟩
  · rw [if_neg missing, if_neg missing, Option.getD_some]
    exact ⟨(clean_trim missing).nonempty, rfl⟩

/-- A name without blanks is its own short name; that of any other is made of the first characters of
its words, in lower case. So short names have no blanks, are empty for blank names only and stay the
same when shortened again, whichever blanks keep the words apart does not count, and a protocol has a
short name without blanks unless one is given. -/
theorem shortNameOf_by_words :
    (∀ name : String, (∀ c ∈ name.toList, isBlank c = false) → shortNameOf name = name) ∧
    (∀ name : String, ∃! ws, HasWords name.toList ws) ∧
    (∀ name ws, HasBlank name → HasWords name.toList ws →
      (shortNameOf name).toList = ws.flatMap fun word => word.head?.elim [] lowercase) ∧
    (∀ name, ∀ c ∈ (shortNameOf name).toList, isBlank c = false) ∧
    (∀ name, shortNameOf name = "" ↔ Blank name) ∧
    (∀ name, shortNameOf (shortNameOf name) = shortNameOf name) ∧
    (∀ a between between' b : String, between ≠ "" → Blank between → between' ≠ "" → Blank between' →
      shortNameOf (a ++ between ++ b) = shortNameOf (a ++ between' ++ b)) ∧
    (∀ a between b : String, HasBlank a → HasBlank b → between ≠ "" → Blank between →
      shortNameOf (a ++ between ++ b) = shortNameOf a ++ shortNameOf b) ∧
    (∀ root protocol, (Protocol.ofNode root).result = .ok protocol →
      protocol.shortName ≠ "" ∧
      protocol.shortName = (root.childText? "protocolshort").getD (shortNameOf protocol.name) ∧
      (HasBlank protocol.shortName →
        root.childText? "protocolshort" = some protocol.shortName)) := by
  refine ⟨fun _ => shortNameOf_of_solid, ?_, ?_, solid_shortNameOf, fun _ => shortNameOf_eq_empty_iff,
    shortNameOf_shortNameOf, ?_, ?_, ?_⟩
  · exact fun name => ⟨_, hasWords_words name.toList, fun ws h => h.words_eq.symm⟩
  · intro name ws blank h
    rw [toList_shortNameOf blank, initials_eq_flatMap, h.words_eq]
  · intro a between between' b some blank some' blank'
    rw [← String.toList_inj, toList_shortNameOf_append some blank,
      toList_shortNameOf_append some' blank']
  · exact fun a between b ha hb => shortNameOf_append ha hb
  · intro root protocol read
    obtain ⟨nonempty, source⟩ := Protocol.shortName_of_read read
    refine ⟨nonempty, source, ?_⟩
    rintro ⟨c, member, blank⟩
    cases given : root.childText? "protocolshort" with
    | some text => rw [source, given, Option.getD_some]
    | none =>
      rw [given, Option.getD_none] at source
      rw [source] at member
      rw [solid_shortNameOf protocol.name c member] at blank
      contradiction

/-- A no-break space parts words as well, and one initial has two characters in lower case. -/
theorem short_name_of_three_words :
    let name := "Lelei\u00a0İ  Wire "
    HasBlank name ∧ HasWords name.toList ["Lelei".toList, "İ".toList, "Wire".toList] ∧
      shortNameOf name = "li\u0307w" := by
  intro name
  obtain ⟨_, _, byWords, _⟩ := shortNameOf_by_words
  have blank : HasBlank name := ⟨' ', by decide, by decide⟩
  have parts : HasWords name.toList ["Lelei".toList, "İ".toList, "Wire".toList] :=
    hasWords_iff.mpr (by decide +kernel)
  refine ⟨blank, parts, ?_⟩
  rw [← String.toList_inj, byWords name _ blank parts]
  decide

end WireSchema
