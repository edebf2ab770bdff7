import WireSchema.Proofs.Text.Delimited
import WireSchema.Proofs.Text.Trim

/-!
Words. The words of a text are stated here as a relation, by what stands between them; a text has them
in one way, and splitting finds them. Blanks between two texts keep the words of both apart.
-/
namespace WireSchema.Text
variable {cs ds blanks word : List Char} {ws vs : List (List Char)}

/-- The words of a text from left to right. Only blanks stand before a word, and it goes on up to the
next blank or to the end of the text. -/
inductive HasWords : List Char → List (List Char) → Prop
  | none {blanks : List Char} (blank : ∀ c ∈ blanks, isBlank c = true) : HasWords blanks []
  | word {blanks word rest : List Char} {ws : List (List Char)}
    (blank : ∀ c ∈ blanks, isBlank c = true) (nonempty : word ≠ [])
    (solid : ∀ c ∈ word, isBlank c = false) (maximal : Stops (!isBlank ·) rest)
    (after : HasWords rest ws) : HasWords (blanks ++ word ++ rest) (word :: ws)

theorem stops_at_blank (nonempty : blanks ≠ []) (blank : ∀ c ∈ blanks, isBlank c = true)
    (cs : List Char) : Stops (!isBlank ·) (blanks ++ cs) := by
  cases blanks with
  | nil => contradiction
  | cons c rest => simpa using blank c List.mem_cons_self

theorem words_of_blank (blank : ∀ c ∈ cs, isBlank c = true) : words cs = [] := by
  rw [words]
  split
  next => rfl
  next found =>
    rw [List.dropWhile_eq_nil_iff.mpr blank] at found
    cases found

theorem words_append_word {rest : List Char} (blank : ∀ c ∈ blanks, isBlank c = true)
    (nonempty : word ≠ []) (solid : ∀ c ∈ word, isBlank c = false)
    (maximal : Stops (!isBlank ·) rest) :
    words (blanks ++ word ++ rest) = word :: words rest := by
  obtain ⟨c, w, rfl⟩ := List.exists_cons_of_ne_nil nonempty
  obtain ⟨first, later⟩ := List.forall_mem_cons.mp solid
  have inside : ∀ c ∈ w, (!isBlank c) = true := by simpa using later
  have start : (blanks ++ (c :: w) ++ rest).dropWhile isBlank = c :: (w ++ rest) := by
    rw [List.append_assoc, List.dropWhile_append_of_pos blank, List.cons_append]
    exact List.dropWhile_cons_of_neg (by simp [first])
  rw [words]
  split
  next found =>
    rw [start] at found
    cases found
  next d more found =>
    rw [start] at found
    obtain ⟨rfl, rfl⟩ := List.cons.inj found
    rw [takeWhile_append_of_stops inside maximal, dropWhile_append_of_stops inside maximal]

theorem HasWords.words_eq (h : HasWords cs ws) : words cs = ws := by
  induction h with
  | none blank => exact words_of_blank blank
  | word blank nonempty solid maximal after ih =>
    rw [words_append_word blank nonempty solid maximal, ih]

theorem hasWords_words (cs : List Char) : HasWords cs (words cs) := by
  fun_induction words cs with
  | case1 cs found => exact .none (List.dropWhile_eq_nil_iff.mp found)
  | case2 cs c rest found ih =>
    have split : cs = cs.takeWhile isBlank ++ (c :: rest.takeWhile (!isBlank ·)) ++
        rest.dropWhile (!isBlank ·) := by
      rw [List.append_assoc, List.cons_append, List.takeWhile_append_dropWhile, ← found,
        List.takeWhile_append_dropWhile]
    have first : isBlank c = false := head_trimStart (by rw [trimStart, found]; rfl)
    have solid : ∀ d ∈ c :: rest.takeWhile (!isBlank ·), isBlank d = false := by
      refine List.forall_mem_cons.mpr ⟨first, fun d inside => ?_⟩
      simpa using List.mem_takeWhile_imp inside
    have maximal : Stops (!isBlank ·) (rest.dropWhile (!isBlank ·)) := by
      intro d next
      have stop := List.head?_dropWhile_not (!isBlank ·) rest
      rw [Option.mem_def.mp next] at stop
      simpa using stop
    have blank : ∀ d ∈ cs.takeWhile isBlank, isBlank d = true := by
      intro d before
      exact List.mem_takeWhile_imp before
    have whole := HasWords.word blank (List.cons_ne_nil _ _) solid maximal ih
    rwa [← split] at whole

theorem hasWords_iff : HasWords cs ws ↔ words cs = ws :=
  ⟨HasWords.words_eq, fun same => same ▸ hasWords_words cs⟩

theorem HasWords.after_blanks (blank : ∀ c ∈ blanks, isBlank c = true) (h : HasWords cs ws) :
    HasWords (blanks ++ cs) ws := by
  cases h with
  | none more => exact .none (List.forall_mem_append.mpr ⟨blank, more⟩)
  | word more nonempty solid maximal after =>
    rw [List.append_assoc, ← List.append_assoc, ← List.append_assoc]
    exact .word (List.forall_mem_append.mpr ⟨blank, more⟩) nonempty solid maximal after

/-- The words of a text and of one that goes on with a blank are those of both, one after another. -/
theorem HasWords.append (h : HasWords cs ws) (apart : Stops (!isBlank ·) ds) (h' : HasWords ds vs) :
    HasWords (cs ++ ds) (ws ++ vs) := by
  induction h with
  | none blank => exact h'.after_blanks blank
  | @word blanks word rest ws blank nonempty solid maximal after ih =>
    have maximal' : Stops (!isBlank ·) (rest ++ ds) := by
      cases rest with
      | nil => exact apart
      | cons c rest => simpa using maximal
    rw [List.append_assoc, List.cons_append]
    exact .word blank nonempty solid maximal' ih

theorem words_append_blanks_append (nonempty : blanks ≠ []) (blank : ∀ c ∈ blanks, isBlank c = true)
    (cs ds : List Char) : words (cs ++ blanks ++ ds) = words cs ++ words ds := by
  rw [List.append_assoc]
  have after := (hasWords_words ds).after_blanks blank
  exact ((hasWords_words cs).append (stops_at_blank nonempty blank ds) after).words_eq

theorem mem_words (member : word ∈ words cs) : word ≠ [] ∧ ∀ c ∈ word, isBlank c = false := by
  have h := hasWords_words cs
  generalize words cs = ws at h member
  induction h with
  | none => contradiction
  | word blank nonempty solid maximal after ih =>
    rcases List.mem_cons.mp member with rfl | later
    · exact ⟨nonempty, solid⟩
    · exact ih later

theorem words_eq_nil_iff : words cs = [] ↔ ∀ c ∈ cs, isBlank c = true := by
  constructor
  · intro empty
    have h := hasWords_words cs
    rw [empty] at h
    cases h with
    | none blank => exact blank
  · exact words_of_blank

end WireSchema.Text
