import WireSchema.Definition.Parse
import WireSchema.Proofs.Failures
import WireSchema.Proofs.Xml.Growth

/-!
The limits of a configuration. Each of them can only refuse a text: what is read within narrow limits
is read the same within wide ones, and so is an error that concerns the definition itself.
-/
namespace WireSchema
open Text Xml Agenda

/-- Whether a configuration allows at least what another one allows. -/
structure Config.Within (config wider : Config) : Prop where
  doctype : config.allowDoctype = true → wider.allowDoctype = true
  nodes : config.nodesLimit ≤ wider.nodesLimit
  length : ∀ limit ∈ wider.maxLength?, ∃ narrower ∈ config.maxLength?, narrower ≤ limit

instance : LE Config := ⟨Config.Within⟩

/-- Whether a reader only refuses texts for its limits: a document type declaration if none is
allowed, and a tree with more nodes than allowed. What is read of any other text is the same. -/
structure TreeReader.OnlyRefuses (read : TreeReader) : Prop where
  doctype : ∀ nodesLimit source, read false nodesLimit source = .error .doctypeNotAllowed ∨
    read false nodesLimit source = read true nodesLimit source
  nodes : ∀ allowDoctype source, ∃ (size : Nat) (unlimited : Except Xml.Error Node), ∀ nodesLimit,
    read allowDoctype nodesLimit source =
      if exceeds nodesLimit size then .error .nodesLimitReached else unlimited

/-- Whether a computation is the same as a whole one, or its beginning, cut off by a failure. -/
def Journal.CutBy {Entry Failure α : Type} (failure : Failure)
    (cut whole : Journal Entry Failure α) : Prop :=
  cut = whole ∨ ∃ entries more result,
    cut = ⟨entries, .error failure⟩ ∧ whole = ⟨entries ++ more, result⟩

theorem Journal.CutBy.bind {Entry Failure α β : Type} {failure : Failure}
    {x : Journal Entry Failure α} {f g : α → Journal Entry Failure β}
    (each : ∀ a, CutBy failure (f a) (g a)) : CutBy failure (x >>= f) (x >>= g) := by
  cases done : x.result with
  | error e =>
    left
    rw [bind_of_error done, bind_of_error done]
  | ok a =>
    rw [bind_of_ok done, bind_of_ok done]
    rcases each a with same | ⟨entries, more, result, cut, whole⟩
    · left
      rw [same]
    · right
      rw [cut, whole]
      exact ⟨x.entries ++ entries, more, result, rfl, by rw [List.append_assoc]⟩

namespace Xml

theorem exceeds_of_le {nodesLimit : UInt32} {size larger : Nat} (le : size ≤ larger)
    (beyond : exceeds nodesLimit size = true) : exceeds nodesLimit larger = true := by
  simp only [exceeds, Bool.and_eq_true, decide_eq_true_eq] at beyond ⊢
  omega

theorem exceeds_of_limit_le {narrow wide : UInt32} {size : Nat} (le : narrow ≤ wide)
    (beyond : exceeds wide size = true) : exceeds narrow size = true := by
  rw [UInt32.le_iff_toNat_le] at le
  simp only [exceeds, Bool.and_eq_true, decide_eq_true_eq] at beyond ⊢
  omega

theorem documentTokens_cut (c : Cursor) :
    Journal.CutBy .doctypeNotAllowed (documentTokens false c) (documentTokens true c) := by
  unfold documentTokens
  apply Journal.CutBy.bind
  intro start
  apply Journal.CutBy.bind
  intro c
  -- The declaration is the only place where the two readings part.
  by_cases declared : c.startsWith "<!DOCTYPE" = true
  · right
    simp only [if_pos declared]
    exact ⟨[], _, _, rfl, rfl⟩
  · left
    simp only [if_neg declared]

theorem onlyRefuses_read : TreeReader.OnlyRefuses Xml.read where
  doctype nodesLimit source := by
    unfold read
    rcases documentTokens_cut (.ofString source) with same | ⟨entries, more, result, cut, whole⟩
    · right
      rw [same]
    · rw [cut, whole]
      rcases treeOf_cut entries more .doctypeNotAllowed result with same | ⟨refused, smaller⟩
      · right
        rw [same]
      · dsimp only
        -- The nodes before the declaration may be too many; then they are so with it as well.
        by_cases beyond : exceeds nodesLimit (treeOf ⟨entries, .error .doctypeNotAllowed⟩).1.size
        · right
          rw [if_pos beyond, if_pos (exceeds_of_le smaller beyond)]
        · left
          rw [if_neg beyond, refused]
  nodes allowDoctype source :=
    let built := treeOf (documentTokens allowDoctype (.ofString source))
    ⟨built.1.size, built.2, fun _ => rfl⟩

end Xml

theorem TreeReader.OnlyRefuses.ok_of_wider {read : TreeReader} (refuses : read.OnlyRefuses)
    {config wider : Config} (within : config ≤ wider) {source : String} {tree : Node}
    (accepted : read config.allowDoctype config.nodesLimit source = .ok tree) :
    read wider.allowDoctype wider.nodesLimit source = .ok tree := by
  have allowed : read wider.allowDoctype config.nodesLimit source = .ok tree := by
    cases before : config.allowDoctype with
    | true =>
      rw [within.doctype before, ← before]
      exact accepted
    | false =>
      rw [before] at accepted
      cases wider.allowDoctype with
      | false => exact accepted
      | true =>
        rcases refuses.doctype config.nodesLimit source with refused | same
        · rw [refused] at accepted
          cases accepted
        · rw [← same]
          exact accepted
  obtain ⟨size, unlimited, limited⟩ := refuses.nodes wider.allowDoctype source
  rw [limited] at allowed ⊢
  split at allowed
  · cases allowed
  · next enough =>
    rw [if_neg, allowed]
    exact fun beyond => enough (exceeds_of_limit_le within.nodes beyond)

theorem Config.lengthError?_eq_some_iff {config : Config} {source : String} {e : StructuralError} :
    config.lengthError? source = some e ↔ ∃ limit, config.maxLength? = some limit ∧
      limit < source.utf8ByteSize ∧ e = .inputTooLarge source.utf8ByteSize limit := by
  unfold lengthError?
  cases config.maxLength? with
  | none => simp
  | some limit => simp [eq_comm]

theorem Config.lengthError?_of_wider {config wider : Config} (within : config ≤ wider)
    {source : String} (short : config.lengthError? source = none) :
    wider.lengthError? source = none := by
  rw [Option.eq_none_iff_forall_ne_some] at short ⊢
  intro e long
  obtain ⟨limit, given, beyond, _⟩ := lengthError?_eq_some_iff.mp long
  obtain ⟨narrower, given', le⟩ := within.length limit given
  exact short _ (lengthError?_eq_some_iff.mpr ⟨narrower, given', Nat.lt_of_le_of_lt le beyond, rfl⟩)

/-- Whether an error concerns the definition, and not the text that was to hold one. -/
def ParseError.concernsDefinition : ParseError → Bool
  | .structural (.xml ..) | .structural (.inputTooLarge ..) => false
  | _ => true

namespace Definition

/-- Whether a result stands, whatever more a configuration may allow. -/
def isSettled : Except ParseError Definition → Bool
  | .ok _ => true
  | .error e => e.concernsDefinition

theorem isSettled_ofNode (root : Node) : isSettled (Definition.ofNode root).result = true := by
  cases failed : (Definition.ofNode root).result with
  | ok d => rfl
  | error e => cases ofReading_of_ofNode failed <;> rfl

section
variable {read : TreeReader} {config wider : Config} {source : String}

theorem parseBy_of_root {tree root : Node} (short : config.lengthError? source = none)
    (found : read config.allowDoctype config.nodesLimit source = .ok tree)
    (top : tree.rootElement? = some root) :
    parseBy read config source = (Definition.ofNode root).result := by
  unfold parseBy traceBy
  simp only [short, found, top]

theorem parseBy_cases (read : TreeReader) (config : Config) (source : String) :
    (∃ e, config.lengthError? source = some e ∧
      parseBy read config source = .error (.structural e)) ∨
    (config.lengthError? source = none ∧
      ∃ e, parseBy read config source = .error (.structural (.ofXml e))) ∨
    (config.lengthError? source = none ∧ ∃ tree root,
      read config.allowDoctype config.nodesLimit source = .ok tree ∧
      tree.rootElement? = some root) := by
  unfold parseBy traceBy
  cases config.lengthError? source with
  | some e => exact .inl ⟨e, rfl, rfl⟩
  | none =>
    cases read config.allowDoctype config.nodesLimit source with
    | error e => exact .inr (.inl ⟨rfl, e, rfl⟩)
    | ok tree =>
      cases top : tree.rootElement? with
      | none =>
        simp only [top]
        exact .inr (.inl ⟨trivial, .noRoot, rfl⟩)
      | some root => exact .inr (.inr ⟨rfl, tree, root, rfl, top⟩)

theorem parseBy_eq_of_wider (refuses : read.OnlyRefuses) (within : config ≤ wider)
    (settled : isSettled (parseBy read config source) = true) :
    parseBy read wider source = parseBy read config source := by
  rcases parseBy_cases read config source with
    ⟨e, long, failed⟩ | ⟨_, e, failed⟩ | ⟨short, tree, root, found, top⟩
  · obtain ⟨limit, _, _, rfl⟩ := Config.lengthError?_eq_some_iff.mp long
    rw [failed] at settled
    contradiction
  · rw [failed] at settled
    contradiction
  · rw [parseBy_of_root short found top, parseBy_of_root (config.lengthError?_of_wider within short)
      (refuses.ok_of_wider within found) top]

theorem parseBy_eq_inputTooLarge_iff {length limit : Nat} :
    parseBy read config source = .error (.structural (.inputTooLarge length limit)) ↔
      config.maxLength? = some limit ∧ length = source.utf8ByteSize ∧ limit < length := by
  have long : parseBy read config source = .error (.structural (.inputTooLarge length limit)) ↔
      config.lengthError? source = some (.inputTooLarge length limit) := by
    rcases parseBy_cases read config source with
      ⟨e, long, failed⟩ | ⟨short, e, failed⟩ | ⟨short, tree, root, found, top⟩
    · simp [failed, long]
    · simp [failed, short, StructuralError.ofXml]
    · rw [parseBy_of_root short found top, short]
      have settled := isSettled_ofNode root
      constructor
      · intro failed
        rw [failed] at settled
        contradiction
      · intro refused
        contradiction
  rw [long, Config.lengthError?_eq_some_iff]
  constructor
  · rintro ⟨limit', given, beyond, same⟩
    cases same
    exact ⟨given, rfl, beyond⟩
  · rintro ⟨given, rfl, beyond⟩
    exact ⟨limit, given, beyond, rfl⟩

theorem parseBy_of_short (short : config.lengthError? source = none) :
    parseBy read config source = parseBy read { config with maxLength? := none } source := by
  unfold parseBy traceBy
  rw [short]
  rfl

end

/-- Wider limits change no definition that is read, and no error of one. The length of a text is judged
before anything else, and a text that is short enough is read as without a limit on the length. All of
this holds of every reader that only refuses trees, as the reader of documents does. -/
theorem parseBy_of_wider_limits :
    TreeReader.OnlyRefuses Xml.read ∧
    ∀ read : TreeReader, read.OnlyRefuses → ∀ (config : Config) (source : String),
      (∀ wider : Config, config ≤ wider →
        (∀ d, parseBy read config source = .ok d → parseBy read wider source = .ok d) ∧
        (∀ e, e.concernsDefinition = true → parseBy read config source = .error e →
          parseBy read wider source = .error e)) ∧
      (∀ length limit,
        parseBy read config source = .error (.structural (.inputTooLarge length limit)) ↔
          config.maxLength? = some limit ∧ length = source.utf8ByteSize ∧ limit < length) ∧
      ((∀ limit ∈ config.maxLength?, source.utf8ByteSize ≤ limit) →
        parseBy read config source = parseBy read { config with maxLength? := none } source) := by
  refine ⟨onlyRefuses_read, ?_⟩
  intro read refuses config source
  refine ⟨?_, fun length limit => parseBy_eq_inputTooLarge_iff, ?_⟩
  · intro wider within
    constructor
    · intro d accepted
      rw [parseBy_eq_of_wider refuses within (by rw [accepted]; rfl), accepted]
    · intro e concerned failed
      rw [parseBy_eq_of_wider refuses within (by rw [failed]; exact concerned), failed]
  · intro enough
    apply parseBy_of_short
    rw [Option.eq_none_iff_forall_ne_some]
    intro e long
    obtain ⟨limit, given, beyond, _⟩ := Config.lengthError?_eq_some_iff.mp long
    exact Nat.not_lt.mpr (enough limit given) beyond

/-- A definition at its limits on nodes and on bytes, with a name of two bytes, and an error that stays
the same where a declaration would be allowed. -/
theorem parse_at_its_limits :
    let source := "<protocol><protocolname>é</protocolname><structure><name>s</name></structure>" ++
      "<header><name>h</name><id_field_name>a</id_field_name></header></protocol>"
    let d : Definition := ⟨⟨"é", "é"⟩, ⟨"s", .bigEndian, []⟩, ⟨"h", "a"⟩, none⟩
    let wide : Config := ⟨true, 13, none⟩
    parse ⟨false, 12, some 152⟩ source = .ok d ∧ parse wide source = .ok d ∧
      parse ⟨false, 12, some 151⟩ source = .error (.structural (.inputTooLarge 152 151)) ∧
      parse ⟨false, 2, some 11⟩ "<protocol/>" = .error (.structural (.missingSection "structure")) ∧
      parse wide "<protocol/>" = .error (.structural (.missingSection "structure")) := by
  intro source d wide
  obtain ⟨refuses, law⟩ := parseBy_of_wider_limits
  have accepted : parse ⟨false, 12, some 152⟩ source = .ok d := by decide +kernel
  have failed : parse ⟨false, 2, some 11⟩ "<protocol/>" =
      .error (.structural (.missingSection "structure")) := by decide +kernel
  obtain ⟨wider, _, _⟩ := law Xml.read refuses ⟨false, 12, some 152⟩ source
  obtain ⟨_, long, _⟩ := law Xml.read refuses ⟨false, 12, some 151⟩ source
  obtain ⟨wider', _, _⟩ := law Xml.read refuses ⟨false, 2, some 11⟩ "<protocol/>"
  refine ⟨accepted, ?_, ?_, failed, ?_⟩
  · exact (wider wide ⟨fun _ => rfl, by decide, fun _ given => nomatch given⟩).1 d accepted
  · exact (long 152 151).mpr ⟨rfl, by decide +kernel, by decide⟩
  · exact (wider' wide ⟨fun _ => rfl, by decide, fun _ given => nomatch given⟩).2 _ rfl failed

end Definition

end WireSchema
