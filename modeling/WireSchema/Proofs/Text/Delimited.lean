import WireSchema.Proofs.Text.Numeral

/-!
Written parts that show where they end. A part is self-delimiting if a text that starts with it
determines the part and what follows: runs of characters of one class, texts up to a mark, and numerals
are, as long as what follows them does not go on in the same way.
-/
namespace WireSchema.Text
variable {s t x y : List Char}

/-- Whether a text does not start with a character of the class. -/
def Stops (p : Char → Bool) (cs : List Char) : Prop := ∀ c ∈ cs.head?, p c = false

@[simp] theorem stops_nil (p : Char → Bool) : Stops p [] := by
  intro c first
  contradiction

@[simp] theorem stops_cons (p : Char → Bool) (c : Char) (cs : List Char) :
    Stops p (c :: cs) ↔ p c = false := by
  simp [Stops]

theorem takeWhile_append_of_stops {p : Char → Bool} (inside : ∀ c ∈ s, p c = true)
    (stop : Stops p x) : (s ++ x).takeWhile p = s := by
  rw [List.takeWhile_append_of_pos inside]
  cases x with
  | nil => simp
  | cons c cs =>
    have outside : p c = false := by simpa using stop
    rw [List.takeWhile_cons_of_neg (by simp [outside]), List.append_nil]

theorem dropWhile_append_of_stops {p : Char → Bool} (inside : ∀ c ∈ s, p c = true)
    (stop : Stops p x) : (s ++ x).dropWhile p = x := by
  have whole := List.takeWhile_append_dropWhile (p := p) (l := s ++ x)
  rw [takeWhile_append_of_stops inside stop] at whole
  exact List.append_cancel_left whole

/-- A run of characters of a class ends where the class does. -/
theorem run_append_inj {p : Char → Bool} (hs : ∀ c ∈ s, p c = true) (ht : ∀ c ∈ t, p c = true)
    (hx : Stops p x) (hy : Stops p y) (same : s ++ x = t ++ y) : s = t ∧ x = y := by
  have runs : s = t := by
    rw [← takeWhile_append_of_stops hs hx, same, takeWhile_append_of_stops ht hy]
  subst runs
  exact ⟨rfl, List.append_cancel_left same⟩

/-- A text without a mark ends at the first mark. -/
theorem until_append_inj {mark : Char} (hs : mark ∉ s) (ht : mark ∉ t)
    (same : s ++ mark :: x = t ++ mark :: y) : s = t ∧ x = y := by
  have other {cs : List Char} (free : mark ∉ cs) : ∀ c ∈ cs, (c != mark) = true := by
    intro c member
    rw [bne_iff_ne]
    rintro rfl
    exact free member
  obtain ⟨texts, rest⟩ := run_append_inj (other hs) (other ht) (by simp) (by simp) same
  exact ⟨texts, (List.cons.inj rest).2⟩

/-- A text of a list in which no text starts with another can be told from whatever follows it. -/
theorem listed_append_inj {texts : List String}
    (apart : ∀ s ∈ texts, ∀ t ∈ texts, s.toList <+: t.toList → s = t) {s t : String}
    (hs : s ∈ texts) (ht : t ∈ texts) (same : s.toList ++ x = t.toList ++ y) : s = t ∧ x = y := by
  have start : s.toList <+: t.toList ++ y := ⟨x, same⟩
  have texts : s = t := by
    rcases List.prefix_or_prefix_of_prefix start (List.prefix_append _ _) with shorter | longer
    · exact apart s hs t ht shorter
    · exact (apart t ht s hs longer).symm
  subst texts
  exact ⟨rfl, List.append_cancel_left same⟩

def isDigit (base : Nat) (c : Char) : Bool := (digit? base c).isSome

theorem Denotes.isDigit {base n : Nat} (h : Denotes base s n) : ∀ c ∈ s, isDigit base c = true :=
  h.isSome

theorem Denotes.unique {base m n : Nat} (hm : Denotes base s m) (hn : Denotes base s n) : m = n := by
  have read := ofDigits?_eq_some_iff.mpr hm
  rw [ofDigits?_eq_some_iff.mpr hn] at read
  exact (Option.some.inj read).symm

theorem toDigits_append_inj {base m n : Nat} (large : 1 < base) (bound : base ≤ 16)
    (hx : Stops (isDigit base) x) (hy : Stops (isDigit base) y)
    (same : Nat.toDigits base m ++ x = Nat.toDigits base n ++ y) : m = n ∧ x = y := by
  have hm := denotes_toDigits large bound m
  have hn := denotes_toDigits large bound n
  obtain ⟨digits, rest⟩ := run_append_inj hm.isDigit hn.isDigit hx hy same
  exact ⟨hm.unique (digits ▸ hn), rest⟩

theorem decimal_append_inj {m n : Nat} (hx : Stops (isDigit 10) x) (hy : Stops (isDigit 10) y)
    (same : (decimal m).toList ++ x = (decimal n).toList ++ y) : m = n ∧ x = y := by
  rw [decimal, decimal, String.toList_ofList, String.toList_ofList] at same
  exact toDigits_append_inj (by decide) (by decide) hx hy same

/-- A numeral ends at a character that is no digit. -/
theorem decimal_cons_inj {m n : Nat} {stop : Char} (noDigit : isDigit 10 stop = false)
    (same : (decimal m).toList ++ stop :: x = (decimal n).toList ++ stop :: y) : m = n ∧ x = y := by
  have stops (cs : List Char) : Stops (isDigit 10) (stop :: cs) := (stops_cons _ _ _).mpr noDigit
  obtain ⟨numbers, rest⟩ := decimal_append_inj (stops x) (stops y) same
  exact ⟨numbers, (List.cons.inj rest).2⟩

theorem hexadecimal_cons_inj {m n : Nat} {stop : Char} (noDigit : isDigit 16 stop = false)
    (same : (hexadecimal m).toList ++ stop :: x = (hexadecimal n).toList ++ stop :: y) :
    m = n ∧ x = y := by
  have stops (cs : List Char) : Stops (isDigit 16) (stop :: cs) := (stops_cons _ _ _).mpr noDigit
  simp only [hexadecimal, String.toList_ofList, List.cons_append, List.cons.injEq, true_and] at same
  obtain ⟨numbers, rest⟩ := toDigits_append_inj (by decide) (by decide) (stops x) (stops y) same
  exact ⟨numbers, (List.cons.inj rest).2⟩

end WireSchema.Text
