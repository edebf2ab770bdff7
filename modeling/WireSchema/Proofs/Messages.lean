import WireSchema.Proofs.Limits
import WireSchema.Proofs.Text.Quoted

/-!
Messages tell errors apart. A message opens with a fixed text, none of which starts with another; what
follows shows the parts of the error, with texts from a document between quotation marks or up to the
end of the message. Names of elements that stand before other text have no closing bracket in them.
-/
namespace WireSchema
open Text

/-- The names of the elements and attributes that definitions are made of. -/
def vocabulary : List String :=
  ["protocol", "protocolname", "protocolshort", "structure", "name", "byte_order", "fields", "field",
   "type", "bits", "header", "id_field_name", "enum", "values", "value", "id"]

theorem bracket_not_mem_vocabulary : ∀ name ∈ vocabulary, '>' ∉ name.toList := by
  decide +kernel

section
variable {s t x y : String}

/-- A name without a closing bracket ends where the text goes on with one. -/
theorem bracket_append_inj (hs : '>' ∉ s.toList) (ht : '>' ∉ t.toList)
    (hx : x.toList.head? = some '>') (hy : y.toList.head? = some '>') (same : s ++ x = t ++ y) :
    s = t ∧ x = y := by
  obtain ⟨xs, hx⟩ := List.head?_eq_some_iff.mp hx
  obtain ⟨ys, hy⟩ := List.head?_eq_some_iff.mp hy
  have texts := congrArg String.toList same
  rw [String.toList_append, String.toList_append, hx, hy] at texts
  obtain rfl := String.toList_inj.mp (until_append_inj hs ht texts).1
  exact ⟨rfl, (String.append_right_inj _).mp same⟩

theorem quoted_append_inj (same : quote s ++ x = quote t ++ y) : s = t ∧ x = y := by
  have texts := congrArg String.toList same
  rw [String.toList_append, String.toList_append] at texts
  obtain ⟨quoted, rest⟩ := quote_append_inj texts
  exact ⟨quoted, String.toList_inj.mp rest⟩

theorem quote_inj (same : quote s = quote t) : s = t :=
  (quoted_append_inj (congrArg (· ++ "") same)).1

/-- A numeral ends where the text goes on with a character that is no digit, or ends itself. -/
theorem numeral_append_inj {m n : Nat} (hx : Stops (isDigit 10) x.toList)
    (hy : Stops (isDigit 10) y.toList) (same : decimal m ++ x = decimal n ++ y) : m = n ∧ x = y := by
  have texts := congrArg String.toList same
  rw [String.toList_append, String.toList_append] at texts
  obtain ⟨numbers, rest⟩ := decimal_append_inj hx hy texts
  exact ⟨numbers, String.toList_inj.mp rest⟩

end

namespace StructuralError

/-- The names of sections and elements in an error; the name of a root is any text. -/
def names : StructuralError → List String
  | missingSection name => [name]
  | missingElement parent child => [parent, child]
  | xml .. | inputTooLarge .. | unexpectedRoot _ => []

def opening : StructuralError → String
  | xml .. => "malformed XML at "
  | inputTooLarge .. => "input is "
  | unexpectedRoot _ => "root element must be <protocol>, found <"
  | missingSection _ => "missing <"
  | missingElement .. => "<"

def parts : StructuralError → String
  | xml row column message => decimal row ++ (":" ++ (decimal column ++ (": " ++ message)))
  | inputTooLarge length limit => decimal length ++ (" bytes, limit is " ++ decimal limit)
  | unexpectedRoot name => name ++ ">"
  | missingSection name => name ++ "> section"
  | missingElement parent child => parent ++ ("> has no <" ++ (child ++ ">"))

theorem message_eq (e : StructuralError) : e.message = e.opening ++ e.parts := by
  cases e <;> simp only [opening, parts, ← String.append_assoc] <;> rfl

theorem parts_inj {e f : StructuralError} (he : ∀ name ∈ e.names, '>' ∉ name.toList)
    (hf : ∀ name ∈ f.names, '>' ∉ name.toList) (openings : e.opening = f.opening)
    (same : e.parts = f.parts) : e = f := by
  cases e with
  | xml row column message =>
    cases f with
    | xml row' column' message' =>
      obtain ⟨rows, same⟩ := numeral_append_inj (by simp; decide) (by simp; decide) same
      obtain ⟨columns, same⟩ := numeral_append_inj (by simp; decide) (by simp; decide)
        ((String.append_right_inj _).mp same)
      rw [rows, columns, (String.append_right_inj _).mp same]
    | _ => simp [opening] at openings
  | inputTooLarge length limit =>
    cases f with
    | inputTooLarge length' limit' =>
      obtain ⟨lengths, same⟩ := numeral_append_inj (by simp; decide) (by simp; decide) same
      have limits := congrArg (· ++ "") ((String.append_right_inj _).mp same)
      rw [lengths, (numeral_append_inj (by simp) (by simp) limits).1]
    | _ => simp [opening] at openings
  | unexpectedRoot name =>
    cases f with
    | unexpectedRoot name' => rw [(String.append_left_inj _).mp same]
    | _ => simp [opening] at openings
  | missingSection name =>
    cases f with
    | missingSection name' => rw [(String.append_left_inj _).mp same]
    | _ => simp [opening] at openings
  | missingElement parent child =>
    cases f with
    | missingElement parent' child' =>
      obtain ⟨parents, same⟩ := bracket_append_inj (he parent (by simp [names]))
        (hf parent' (by simp [names])) (by simp) (by simp) same
      rw [String.append_right_inj, String.append_left_inj] at same
      rw [parents, same]
    | _ => simp [opening] at openings

end StructuralError

namespace ValueError

/-- The names of elements and attributes in an error; literals and names of fields are any texts. -/
def names : ValueError → List String
  | missingAttribute element name => [element, name]
  | missingText element => [element]
  | missingProtocolName | unknownByteOrder _ | invalidEnumId _ | invalidBits .. => []

def opening : ValueError → String
  | missingProtocolName => "protocol has no <protocolname>"
  | unknownByteOrder _ => "unknown byte order "
  | invalidEnumId _ => "enum id "
  | invalidBits .. => "field "
  | missingAttribute .. | missingText _ => "<"

def parts : ValueError → String
  | missingProtocolName => ""
  | unknownByteOrder literal => quote literal ++ " (expected big_endian, little_endian or as_host)"
  | invalidEnumId literal => quote literal ++ " is not a decimal or 0x-prefixed hexadecimal integer"
  | invalidBits field literal =>
    quote field ++ (": bits " ++ (quote literal ++ " is not a positive integer"))
  | missingAttribute element name => element ++ ("> is missing attribute " ++ quote name)
  | missingText element => element ++ "> has no text"

theorem message_eq (e : ValueError) : e.message = e.opening ++ e.parts := by
  cases e with
  | missingProtocolName => exact (String.append_empty).symm
  | _ =>
    simp only [opening, parts, ← String.append_assoc]
    rfl

theorem missingAttribute_parts_ne_missingText {element name element' : String}
    (he : '>' ∉ element.toList) (hf : '>' ∉ element'.toList) :
    (missingAttribute element name).parts ≠ (missingText element').parts := by
  intro same
  obtain ⟨_, rest⟩ := bracket_append_inj he hf (by simp) (by simp) same
  have texts := congrArg String.toList rest
  simp at texts

theorem parts_inj {e f : ValueError} (he : ∀ name ∈ e.names, '>' ∉ name.toList)
    (hf : ∀ name ∈ f.names, '>' ∉ name.toList) (openings : e.opening = f.opening)
    (same : e.parts = f.parts) : e = f := by
  cases e with
  | missingProtocolName =>
    cases f with
    | missingProtocolName => rfl
    | _ => simp [opening] at openings
  | unknownByteOrder literal =>
    cases f with
    | unknownByteOrder literal' => rw [(quoted_append_inj same).1]
    | _ => simp [opening] at openings
  | invalidEnumId literal =>
    cases f with
    | invalidEnumId literal' => rw [(quoted_append_inj same).1]
    | _ => simp [opening] at openings
  | invalidBits field literal =>
    cases f with
    | invalidBits field' literal' =>
      obtain ⟨fields, same⟩ := quoted_append_inj same
      obtain ⟨literals, _⟩ := quoted_append_inj ((String.append_right_inj _).mp same)
      rw [fields, literals]
    | _ => simp [opening] at openings
  | missingAttribute element name =>
    have free : '>' ∉ element.toList := he element (by simp [names])
    cases f with
    | missingAttribute element' name' =>
      obtain ⟨elements, same⟩ :=
        bracket_append_inj free (hf element' (by simp [names])) (by simp) (by simp) same
      rw [elements, quote_inj ((String.append_right_inj _).mp same)]
    | missingText element' =>
      exact absurd same (missingAttribute_parts_ne_missingText free (hf element' (by simp [names])))
    | _ => simp [opening] at openings
  | missingText element =>
    have free : '>' ∉ element.toList := he element (by simp [names])
    cases f with
    | missingText element' => rw [(String.append_left_inj _).mp same]
    | missingAttribute element' name' =>
      exact absurd same.symm
        (missingAttribute_parts_ne_missingText (hf element' (by simp [names])) free)
    | _ => simp [opening] at openings

end ValueError

namespace ParseError

def names : ParseError → List String
  | structural e => e.names
  | value e => e.names

/-- Whether the error names only elements and attributes that definitions are made of. -/
def InVocabulary (e : ParseError) : Prop := ∀ name ∈ e.names, name ∈ vocabulary

def opening : ParseError → String
  | structural e => "structural error: " ++ e.opening
  | value e => "value error: " ++ e.opening

def parts : ParseError → String
  | structural e => e.parts
  | value e => e.parts

theorem message_eq (e : ParseError) : e.message = e.opening ++ e.parts := by
  cases e with
  | structural e =>
    show "structural error: " ++ e.message = "structural error: " ++ e.opening ++ e.parts
    rw [e.message_eq, String.append_assoc]
  | value e =>
    show "value error: " ++ e.message = "value error: " ++ e.opening ++ e.parts
    rw [e.message_eq, String.append_assoc]

def openings : List String :=
  ["malformed XML at ", "input is ", "root element must be <protocol>, found <", "missing <",
    "<"].map ("structural error: " ++ ·) ++
  ["protocol has no <protocolname>", "unknown byte order ", "enum id ", "field ",
    "<"].map ("value error: " ++ ·)

theorem openings_apart : ∀ s ∈ openings, ∀ t ∈ openings, s.toList <+: t.toList → s = t := by
  decide +kernel

theorem opening_mem_openings (e : ParseError) : e.opening ∈ openings := by
  cases e with
  | structural e =>
    apply List.mem_append_left
    apply List.mem_map_of_mem
    cases e <;> simp [StructuralError.opening]
  | value e =>
    apply List.mem_append_right
    apply List.mem_map_of_mem
    cases e <;> simp [ValueError.opening]

section
variable {e f : ParseError}

theorem parts_of_message_eq (same : e.message = f.message) :
    e.opening = f.opening ∧ e.parts = f.parts := by
  rw [message_eq, message_eq, ← String.toList_inj, String.toList_append, String.toList_append] at same
  obtain ⟨openings, parts⟩ :=
    listed_append_inj openings_apart e.opening_mem_openings f.opening_mem_openings same
  exact ⟨openings, String.toList_inj.mp parts⟩

theorem structural_message_ne_value (s : StructuralError) (v : ValueError) :
    (structural s).message ≠ (value v).message := by
  intro same
  have openings : ("structural error: " ++ s.opening).toList = ("value error: " ++ v.opening).toList :=
    congrArg String.toList (parts_of_message_eq same).1
  simp at openings

theorem message_inj (he : ∀ name ∈ e.names, '>' ∉ name.toList)
    (hf : ∀ name ∈ f.names, '>' ∉ name.toList) (same : e.message = f.message) : e = f := by
  obtain ⟨openings, parts⟩ := parts_of_message_eq same
  cases e with
  | structural s =>
    cases f with
    | structural t => rw [StructuralError.parts_inj he hf ((String.append_right_inj _).mp openings) parts]
    | value v => exact absurd same (structural_message_ne_value s v)
  | value v =>
    cases f with
    | structural s => exact absurd same.symm (structural_message_ne_value s v)
    | value w => rw [ValueError.parts_inj he hf ((String.append_right_inj _).mp openings) parts]

theorem InVocabulary.bracket_not_mem (h : e.InVocabulary) : ∀ name ∈ e.names, '>' ∉ name.toList :=
  fun name member => bracket_not_mem_vocabulary name (h name member)

/-- An error with the message of an invalid width names no element, so it needs no vocabulary. -/
theorem eq_of_invalidBits_message_eq {field literal : String}
    (same : (value (.invalidBits field literal)).message = e.message) :
    value (.invalidBits field literal) = e := by
  cases e with
  | structural s => exact absurd same.symm (structural_message_ne_value s _)
  | value v =>
    have openings : ValueError.opening (.invalidBits field literal) = v.opening :=
      (String.append_right_inj _).mp (parts_of_message_eq same).1
    cases v with
    | invalidBits field' literal' =>
      have unnamed (field literal : String) :
          ∀ name ∈ names (value (.invalidBits field literal)), '>' ∉ name.toList :=
        fun _ member => nomatch member
      exact message_inj (unnamed field literal) (unnamed field' literal') same
    | _ => simp [ValueError.opening] at openings

theorem inVocabulary_of_ofReading {root : Xml.Node} (reported : e.OfReading root) :
    e.InVocabulary := by
  unfold InVocabulary
  cases reported with
  | missingSection listed =>
    simp only [List.mem_cons, List.not_mem_nil, or_false] at listed
    rcases listed with rfl | rfl <;> decide
  | missingElement listed =>
    simp only [List.mem_cons, List.not_mem_nil, or_false, Prod.mk.injEq] at listed
    rcases listed with ⟨rfl, rfl⟩ | ⟨rfl, rfl⟩ | ⟨rfl, rfl⟩ <;> decide
  | missingAttribute listed =>
    simp only [List.mem_cons, List.not_mem_nil, or_false, Prod.mk.injEq] at listed
    rcases listed with ⟨rfl, rfl⟩ | ⟨rfl, rfl⟩ | ⟨rfl, rfl⟩ | ⟨rfl, rfl⟩ <;> decide
  | missingText listed =>
    simp only [List.mem_cons, List.not_mem_nil, or_false] at listed
    rcases listed with rfl | rfl <;> decide
  | _ => simp [names, StructuralError.names, ValueError.names]

end

end ParseError

namespace Definition
open ParseError

theorem inVocabulary_of_parseBy {read : TreeReader} {config : Config} {source : String}
    {e : ParseError} (failed : parseBy read config source = .error e) : e.InVocabulary := by
  rcases parseBy_cases read config source with
    ⟨long, exceeded, result⟩ | ⟨_, malformed, result⟩ | ⟨short, tree, root, found, top⟩
  · obtain ⟨limit, _, _, rfl⟩ := Config.lengthError?_eq_some_iff.mp exceeded
    rw [result] at failed
    cases failed
    simp [InVocabulary, names, StructuralError.names]
  · rw [result] at failed
    cases failed
    simp [InVocabulary, names, StructuralError.ofXml, StructuralError.names]
  · rw [parseBy_of_root short found top] at failed
    exact inVocabulary_of_ofReading (ofReading_of_ofNode failed)

end Definition

/-- The message of an error tells it, as long as the error names elements and attributes that there
are; those of a text that is refused do. Messages of the two classes of errors are never the same, and
that of an invalid width is the message of no other error, whatever field and literal it shows. -/
theorem ParseError.message_eq_iff :
    (∀ e f : ParseError, e.InVocabulary → f.InVocabulary → (e.message = f.message ↔ e = f)) ∧
    (∀ s v, (structural s).message ≠ (value v).message) ∧
    (∀ field literal e, (value (.invalidBits field literal)).message = e.message →
      value (.invalidBits field literal) = e) ∧
    (∀ read config source e, Definition.parseBy read config source = .error e → e.InVocabulary) := by
  refine ⟨?_, structural_message_ne_value, fun _ _ _ => eq_of_invalidBits_message_eq,
    fun _ _ _ _ => Definition.inVocabulary_of_parseBy⟩
  intro e f he hf
  constructor
  · exact message_inj he.bracket_not_mem hf.bracket_not_mem
  · rintro rfl
    rfl

/-- The field of the one error and the literal of the other contain what stands between the two. -/
theorem messages_of_two_widths :
    let e : ParseError := .value (.invalidBits "a" "b\": bits \"c")
    let f : ParseError := .value (.invalidBits "a\": bits \"b" "c")
    let g : ParseError := .value (.missingAttribute "field" "bits")
    e.InVocabulary ∧ f.InVocabulary ∧ g.InVocabulary ∧
      e.message ≠ f.message ∧ e.message ≠ g.message ∧ f.message ≠ g.message := by
  intro e f g
  have he : e.InVocabulary := fun _ member => nomatch member
  have hf : f.InVocabulary := fun _ member => nomatch member
  have hg : g.InVocabulary := by simp [g, ParseError.InVocabulary, ParseError.names, ValueError.names,
    vocabulary]
  obtain ⟨told, _, width, _⟩ := ParseError.message_eq_iff
  refine ⟨he, hf, hg, ?_, ?_, ?_⟩
  · exact fun same => absurd ((told e f he hf).mp same) (by simp [e, f])
  · exact fun same => absurd (width _ _ g same) (by simp [g])
  · exact fun same => absurd (width _ _ g same) (by simp [g])

end WireSchema
