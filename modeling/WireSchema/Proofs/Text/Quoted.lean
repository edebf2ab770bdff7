import WireSchema.Proofs.Text.Delimited
import WireSchema.Text.Quoted

/-!
Quoted texts are self-delimiting. Every escape can be read back, whatever follows it, and none starts
with the quotation mark, so the first mark that no escape covers is the end of the text.
-/
namespace WireSchema.Text

/-- The character that an escape stands for, and what follows the escape. -/
def unescape? : List Char → Option (Char × List Char)
  | '\\' :: 'u' :: '\x7b' :: cs =>
    (ofDigits? 16 (cs.takeWhile (isDigit 16))).map fun n =>
      (Char.ofNat n, (cs.dropWhile (isDigit 16)).tail)
  | '\\' :: '0' :: cs => some ('\x00', cs)
  | '\\' :: 't' :: cs => some ('\t', cs)
  | '\\' :: 'n' :: cs => some ('\n', cs)
  | '\\' :: 'r' :: cs => some ('\r', cs)
  | '\\' :: c :: cs => some (c, cs)
  | c :: cs => some (c, cs)
  | [] => none

theorem unescape?_codePointEscape (c : Char) (rest : List Char) :
    unescape? (codePointEscape c ++ rest) = some (c, rest) := by
  have denoted : Denotes 16 (Nat.toDigits 16 c.toNat) c.toNat :=
    denotes_toDigits (by decide) (by decide) c.toNat
  have stop : Stops (isDigit 16) ('\x7d' :: rest) := by
    rw [stops_cons]
    decide
  simp only [codePointEscape, List.cons_append, List.nil_append, List.append_assoc, unescape?,
    takeWhile_append_of_stops denoted.isDigit stop, dropWhile_append_of_stops denoted.isDigit stop,
    ofDigits?_eq_some_iff.mpr denoted, Option.map_some, Char.ofNat_toNat, List.tail_cons]

theorem unescape?_escape (c : Char) (rest : List Char) :
    unescape? (escape '"' c ++ rest) = some (c, rest) := by
  unfold escape
  split
  next mark => rw [mark]; rfl
  next =>
    split
    next => rfl
    next => rfl
    next => rfl
    next => rfl
    next => rfl
    next backslash =>
      split
      next => exact unescape?_codePointEscape c rest
      next =>
        unfold unescape?
        split <;> simp_all

theorem escape_append_inj {c d : Char} {x y : List Char}
    (same : escape '"' c ++ x = escape '"' d ++ y) : c = d ∧ x = y := by
  have read := unescape?_escape c x
  rw [same, unescape?_escape] at read
  obtain ⟨rfl, rfl⟩ := Prod.mk.inj (Option.some.inj read)
  exact ⟨rfl, rfl⟩

/-- No escape starts with the mark that ends the text. -/
theorem escape_append_ne_mark (c : Char) (x y : List Char) : escape '"' c ++ x ≠ '"' :: y := by
  unfold escape
  split
  next => simp
  next other =>
    split
    next => simp
    next => simp
    next => simp
    next => simp
    next => simp
    next =>
      split
      next => simp [codePointEscape]
      next => simp [other]

/-- A quoted text can be told from whatever follows it. -/
theorem quote_append_inj {s t : String} {x y : List Char}
    (same : (quote s).toList ++ x = (quote t).toList ++ y) : s = t ∧ x = y := by
  have texts (cs ds : List Char)
      (body : cs.flatMap (escape '"') ++ '"' :: x = ds.flatMap (escape '"') ++ '"' :: y) :
      cs = ds ∧ x = y := by
    induction cs generalizing ds with
    | nil =>
      cases ds with
      | nil => exact ⟨rfl, (List.cons.inj body).2⟩
      | cons d ds =>
        rw [List.flatMap_cons, List.append_assoc] at body
        exact absurd body.symm (escape_append_ne_mark d _ _)
    | cons c cs ih =>
      rw [List.flatMap_cons, List.append_assoc] at body
      cases ds with
      | nil => exact absurd body (escape_append_ne_mark c _ _)
      | cons d ds =>
        rw [List.flatMap_cons, List.append_assoc] at body
        obtain ⟨rfl, rest⟩ := escape_append_inj body
        obtain ⟨rfl, after⟩ := ih ds rest
        exact ⟨rfl, after⟩
  simp only [quote, quoteChars, String.toList_ofList, List.cons_append, List.append_assoc,
    List.nil_append, List.cons.injEq, true_and] at same
  obtain ⟨chars, after⟩ := texts _ _ same
  exact ⟨String.toList_inj.mp chars, after⟩

end WireSchema.Text
