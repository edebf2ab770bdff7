import WireSchema.Proofs.CommandLine
import WireSchema.Proofs.Messages
import WireSchema.Proofs.Text.FreeOf
import WireSchema.Proofs.Xml.TagNames

/-!
Error lines. Texts of a document come into a message between quotation marks, but for the name of the
root element, which is a name. So a message that does not come from the reading of the tree has no
character in it that ends a line, and the error output has one line for the document.
-/
namespace WireSchema
open Text Xml

theorem freeOf_of_isNameText {s : String} (named : IsNameText s) :
    FreeOf lineBreakRanges s ∧ FreeOf controlRanges s := by
  have apart : ∀ range ∈ nameStartRanges ++ nameOtherRanges,
      ∀ banned ∈ lineBreakRanges ++ controlRanges, range.2 < banned.1 ∨ banned.2 < range.1 := by
    decide
  rw [FreeOf, FreeOf, ← forall₂_and]
  intro c member
  rw [← Bool.or_eq_false_iff, Bool.eq_false_iff, ne_eq, Bool.or_eq_true]
  intro found
  have among : ∃ banned ∈ lineBreakRanges ++ controlRanges,
      banned.1 ≤ c.toNat ∧ c.toNat ≤ banned.2 := by
    rw [← Ranges.contains_iff, Ranges.contains, List.any_append, Bool.or_eq_true]
    exact found
  have inName : ∃ range ∈ nameStartRanges ++ nameOtherRanges,
      range.1 ≤ c.toNat ∧ c.toNat ≤ range.2 := by
    rw [← Ranges.contains_iff, Ranges.contains, List.any_append]
    exact named c member
  obtain ⟨banned, listed, _, _⟩ := among
  obtain ⟨range, listed', _, _⟩ := inName
  have outside := apart range listed' banned listed
  omega

theorem freeOf_vocabulary (name : String) (listed : name ∈ vocabulary) :
    FreeOf unprintableRanges name := by
  have ascii : ∀ name ∈ vocabulary, InAscii name.toList := by decide +kernel
  exact freeOf_of_ascii (ascii name listed)

namespace ParseError

/-- Whether the error is that of a text without a tree. -/
def isXml : ParseError → Bool
  | structural (.xml ..) => true
  | _ => false

/-- The name of the root in an error; of all texts of a document only this is shown as it stands. -/
def rootName? : ParseError → Option String
  | structural (.unexpectedRoot name) => some name
  | _ => none

section
variable {ranges : Ranges} {e : ParseError}

theorem freeOf_opening (e : ParseError) : FreeOf unprintableRanges e.opening := by
  have ascii : ∀ s ∈ openings, InAscii s.toList := by decide +kernel
  exact freeOf_of_ascii (ascii e.opening (opening_mem_openings e))

theorem freeOf_parts_of_value {e : ValueError} (known : (value e).InVocabulary) :
    FreeOf unprintableRanges e.parts := by
  have shown (name : String) (named : name ∈ e.names) := freeOf_vocabulary name (known name named)
  cases e with
  | missingProtocolName => exact freeOf_of_ascii (by decide)
  | unknownByteOrder literal =>
    exact (freeOf_quote literal).append (freeOf_of_ascii (by decide +kernel))
  | invalidEnumId literal =>
    exact (freeOf_quote literal).append (freeOf_of_ascii (by decide +kernel))
  | invalidBits field literal =>
    refine (freeOf_quote field).append (.append (freeOf_of_ascii (by decide +kernel)) ?_)
    exact (freeOf_quote literal).append (freeOf_of_ascii (by decide +kernel))
  | missingAttribute element name =>
    refine (shown element List.mem_cons_self).append ?_
    exact .append (freeOf_of_ascii (by decide +kernel)) (freeOf_quote name)
  | missingText element =>
    exact (shown element List.mem_cons_self).append (freeOf_of_ascii (by decide +kernel))

theorem freeOf_parts_of_structural (within : ranges.Within unprintableRanges) {e : StructuralError}
    (known : (structural e).InVocabulary) (tree : (structural e).isXml = false)
    (root : ∀ name ∈ (structural e).rootName?, FreeOf ranges name) : FreeOf ranges e.parts := by
  have shown (name : String) (named : name ∈ e.names) : FreeOf ranges name :=
    (freeOf_vocabulary name (known name named)).of_within within
  have fixed {s : String} (ascii : InAscii s.toList) : FreeOf ranges s :=
    (freeOf_of_ascii ascii).of_within within
  have number (n : Nat) : FreeOf ranges (decimal n) := (freeOf_decimal n).of_within within
  cases e with
  | xml row column message => contradiction
  | inputTooLarge length limit =>
    exact (number length).append (.append (fixed (by decide +kernel)) (number limit))
  | unexpectedRoot name => exact (root name rfl).append (fixed (by decide))
  | missingSection name =>
    exact (shown name List.mem_cons_self).append (fixed (by decide +kernel))
  | missingElement parent child =>
    refine (shown parent List.mem_cons_self).append (.append (fixed (by decide +kernel)) ?_)
    exact (shown child (List.mem_cons_of_mem _ List.mem_cons_self)).append (fixed (by decide))

theorem freeOf_message (within : ranges.Within unprintableRanges) (known : e.InVocabulary)
    (tree : e.isXml = false) (root : ∀ name ∈ e.rootName?, FreeOf ranges name) :
    FreeOf ranges e.message := by
  rw [message_eq]
  refine ((freeOf_opening e).of_within within).append ?_
  cases e with
  | structural e => exact freeOf_parts_of_structural within known tree root
  | value e => exact (freeOf_parts_of_value known).of_within within

theorem OfReading.rootName {root : Node} (reported : e.OfReading root) :
    e.isXml = false ∧ ∀ name ∈ e.rootName?, name = root.localName := by
  cases reported with
  | unexpectedRoot => exact ⟨rfl, fun name same => (Option.some.inj same).symm⟩
  | _ => exact ⟨rfl, fun name member => nomatch member⟩

end

end ParseError

/-- Whether the root of the tree that a reader gives for a text has a name without the characters. -/
def TreeReader.RootFreeOf (ranges : Ranges) (read : TreeReader) (config : Config) (source : String) :
    Prop :=
  ∀ tree root, read config.allowDoctype config.nodesLimit source = .ok tree →
    tree.rootElement? = some root → FreeOf ranges root.localName

theorem Xml.rootFreeOf_read (config : Config) (source : String) :
    TreeReader.RootFreeOf lineBreakRanges Xml.read config source ∧
      TreeReader.RootFreeOf controlRanges Xml.read config source :=
  ⟨fun _ _ found top => (freeOf_of_isNameText (isNameText_of_read found top)).1,
    fun _ _ found top => (freeOf_of_isNameText (isNameText_of_read found top)).2⟩

namespace Definition
open ParseError

variable {ranges : Ranges} {e : ParseError}

theorem freeOf_message_of_ofNode (within : ranges.Within unprintableRanges) {root : Node}
    (failed : (Definition.ofNode root).result = .error e) (named : FreeOf ranges root.localName) :
    FreeOf ranges e.message := by
  have reported := ofReading_of_ofNode failed
  obtain ⟨tree, shown⟩ := reported.rootName
  apply freeOf_message within (inVocabulary_of_ofReading reported) tree
  intro name given
  rwa [shown name given]

theorem freeOf_message_of_parseBy (within : ranges.Within unprintableRanges) {read : TreeReader}
    {config : Config} {source : String} (named : read.RootFreeOf ranges config source)
    (failed : parseBy read config source = .error e) (tree : e.isXml = false) :
    FreeOf ranges e.message := by
  rcases parseBy_cases read config source with
    ⟨long, exceeded, result⟩ | ⟨_, malformed, result⟩ | ⟨short, found, root, given, top⟩
  · obtain ⟨limit, _, _, rfl⟩ := Config.lengthError?_eq_some_iff.mp exceeded
    rw [result] at failed
    cases failed
    exact freeOf_message within (fun name member => nomatch member) rfl fun name member => nomatch member
  · rw [result] at failed
    cases failed
    contradiction
  · rw [parseBy_of_root short given top] at failed
    exact freeOf_message_of_ofNode within failed (named found root given top)

end Definition

namespace CommandLine
open Definition

theorem freeOf_line {label source : String} {e : ParseError}
    (failed : Definition.parse {} source = .error e) (tree : e.isXml = false)
    (clear : FreeOf lineBreakRanges label) :
    FreeOf lineBreakRanges (label ++ ": " ++ e.message) := by
  refine (clear.append (by decide)).append ?_
  exact freeOf_message_of_parseBy lineBreakRanges_within (rootFreeOf_read {} source).1 failed tree

theorem stderr_with_message (log : Log) (cs ds : List Contribution) (records : List Record)
    (line : String) :
    (outcomeOf log (cs ++ ⟨records, .message line⟩ :: ds)).stderr =
      log.errors 0 cs ++ log.lines (recorded cs) records ++ line ++
        log.errors (recorded cs + records.length) ds ++ summary (failures cs + 1 + failures ds) := by
  simp [outcomeOf, Log.errors_append, Log.errors, failures, Contribution.message,
    Contribution.isMessage, String.append_assoc, Nat.add_assoc, Nat.add_comm 1]

theorem lines_of_refused {log : Log} (filtered : log.FromInfo) (earlier : Nat)
    (source label : String) (e : ParseError) :
    log.lines earlier (recordsOf source ++ [.refused label e]) = "" :=
  Log.lines_of_passesOver (filtered.passesOver (level_of_refused source label e)) earlier

theorem run_of_stdin {arguments : List String} (pathless : pathsOf arguments = [])
    (read : String → Except ReadError ByteArray) (source : String) (log : Log) :
    run read source.toUTF8 arguments log =
      outcomeOf log [reading (styleOf arguments) "<stdin>" source] := by
  unfold run
  split
  next => simp only [decode_toUTF8, Session.dump_eq_after, Session.finish_after]
  next given => exact absurd pathless given

theorem run_of_refused_stdin {arguments : List String} (pathless : pathsOf arguments = [])
    {source : String} {e : ParseError} (failed : Definition.parse {} source = .error e)
    (read : String → Except ReadError ByteArray) (log : Log) :
    (run read source.toUTF8 arguments log).stderr =
      log.lines 0 (recordsOf source ++ [.refused "<stdin>" e]) ++
        ("<stdin>" ++ ": " ++ e.message ++ "\n") ++ summary 1 := by
  rw [run_of_stdin pathless, reading_of_refused failed, ← List.nil_append [_], stderr_with_message]
  generalize "<stdin>" ++ ": " ++ e.message ++ "\n" = line
  simp [Log.errors, recorded, failures]

theorem run_with_refused {arguments before after : List String} {path source : String}
    {e : ParseError} (paths : pathsOf arguments = before ++ path :: after)
    {read : String → Except ReadError ByteArray} (found : read path = .ok source.toUTF8)
    (failed : Definition.parse {} source = .error e) (stdin : ByteArray) (log : Log) :
    let contributes := fun path c => Contributes (styleOf arguments) path (read path) c
    let records := recordsOf source ++ [.refused path e]
    ∃ cs ds, List.Forall₂ contributes before cs ∧ List.Forall₂ contributes after ds ∧
      (run read stdin arguments log).stderr =
        log.errors 0 cs ++ log.lines (recorded cs) records ++
          (path ++ ": " ++ e.message ++ "\n") ++ log.errors (recorded cs + records.length) ds ++
          summary (failures cs + 1 + failures ds) ∧
      ∀ others, pathsOf others = before ++ after → styleOf others = styleOf arguments →
        pathsOf others ≠ [] →
        (run read stdin others log).stderr =
          log.errors 0 cs ++ log.errors (recorded cs) ds ++ summary (failures cs + failures ds) := by
  intro contributes records
  let contributed (path : String) := contribution (styleOf arguments) path (read path)
  have refused : contributed path = ⟨records, .message (path ++ ": " ++ e.message ++ "\n")⟩ := by
    unfold contributed
    rw [found, contribution_of_text, reading_of_refused failed]
  refine ⟨_, _, contributes_each _ before, contributes_each _ after, ?_, ?_⟩
  · rw [run_of_paths (by simp [paths]) read stdin log, paths, List.map_append, List.map_cons]
    change (outcomeOf log (before.map contributed ++ contributed path :: _)).stderr = _
    rw [refused, stderr_with_message]
  · intro others same style given
    rw [run_of_paths given read stdin log, same, style, List.map_append, outcomeOf_append]

end CommandLine

open CommandLine in
/-- The message of an error in reading a tree has no character that ends a line if the name of the root
has none, and no control if that has none. Names of roots that are read from a text have neither, so this
holds of all errors but those of texts without a tree. Such an error is one line of the error output,
under its path or for the standard input; without the path the other lines are as they are with it. The
log may have lines of its own on it, with the standard filter it has none. -/
theorem error_on_one_line :
    (∀ root e, (Definition.ofNode root).result = .error e →
      FreeOf lineBreakRanges root.localName →
      FreeOf lineBreakRanges e.message ∧
      (FreeOf controlRanges root.localName → FreeOf controlRanges e.message)) ∧
    (∀ (read : TreeReader) config source e, Definition.parseBy read config source = .error e →
      e.isXml = false → read.RootFreeOf lineBreakRanges config source →
      FreeOf lineBreakRanges e.message ∧
      (read.RootFreeOf controlRanges config source → FreeOf controlRanges e.message)) ∧
    (∀ config source, TreeReader.RootFreeOf lineBreakRanges Xml.read config source ∧
      TreeReader.RootFreeOf controlRanges Xml.read config source) ∧
    ∀ source e, Definition.parse {} source = .error e → e.isXml = false →
      (∀ label, FreeOf lineBreakRanges label →
        FreeOf lineBreakRanges (label ++ ": " ++ e.message)) ∧
      (∀ (read : String → Except ReadError ByteArray) (stdin : ByteArray) arguments (log : Log)
          before path after,
        pathsOf arguments = before ++ path :: after → read path = .ok source.toUTF8 →
        let contributes := fun path c => Contributes (styleOf arguments) path (read path) c
        let records := recordsOf source ++ [.refused path e]
        ∃ cs ds, List.Forall₂ contributes before cs ∧ List.Forall₂ contributes after ds ∧
          (run read stdin arguments log).stderr =
            log.errors 0 cs ++ log.lines (recorded cs) records ++
              (path ++ ": " ++ e.message ++ "\n") ++ log.errors (recorded cs + records.length) ds ++
              summary (failures cs + 1 + failures ds) ∧
          ∀ others, pathsOf others = before ++ after → styleOf others = styleOf arguments →
            pathsOf others ≠ [] →
            (run read stdin others log).stderr =
              log.errors 0 cs ++ log.errors (recorded cs) ds ++
                summary (failures cs + failures ds)) ∧
      (∀ (read : String → Except ReadError ByteArray) arguments (log : Log),
        pathsOf arguments = [] →
        (run read source.toUTF8 arguments log).stderr =
          log.lines 0 (recordsOf source ++ [.refused "<stdin>" e]) ++
            ("<stdin>" ++ ": " ++ e.message ++ "\n") ++ summary 1) ∧
      ∀ (log : Log) earlier label, log.FromInfo →
        log.lines earlier (recordsOf source ++ [.refused label e]) = "" := by
  refine ⟨?_, ?_, rootFreeOf_read, ?_⟩
  · intro root e failed named
    exact ⟨Definition.freeOf_message_of_ofNode lineBreakRanges_within failed named,
      Definition.freeOf_message_of_ofNode controlRanges_within failed⟩
  · intro read config source e failed tree named
    exact ⟨Definition.freeOf_message_of_parseBy lineBreakRanges_within named failed tree,
      fun clear => Definition.freeOf_message_of_parseBy controlRanges_within clear failed tree⟩
  · intro source e failed tree
    exact ⟨fun label => freeOf_line failed tree,
      fun read stdin arguments log before path after paths found =>
        run_with_refused paths found failed stdin log,
      fun read arguments log pathless => run_of_refused_stdin pathless failed read log,
      fun log earlier label filtered => lines_of_refused filtered earlier source label e⟩

open CommandLine in
/-- A field name and a literal that hold a line feed and a line separator, and a root whose name holds a
control that ends no line. -/
theorem line_of_a_broken_width :
    let source := "<protocol><protocolname>p</protocolname><structure><name>s</name><fields>" ++
      "<field name='a&#10;b' type='t' bits='8&#8232;9'/></fields></structure><header/></protocol>"
    let e : ParseError := .value (.invalidBits "a\nb" "8\u20289")
    let line := "f: value error: field \"a\\nb\": bits \"8\\u\x7b2028\x7d9\" is not a positive integer"
    let read := fun _ => .ok source.toUTF8
    let root : Node := .element ⟨none, "a\tb"⟩ [] []
    let e' : ParseError := .structural (.unexpectedRoot "a\tb")
    Definition.parse {} source = .error e ∧ "f: " ++ e.message = line ∧
      FreeOf lineBreakRanges line ∧ FreeOf controlRanges e.message ∧
      (run read .empty ["f"]).stderr = line ++ "\n" ++ "lelei_dump: 1 document(s) failed\n" ∧
      (Definition.ofNode root).result = .error e' ∧ FreeOf lineBreakRanges e'.message ∧
      ¬FreeOf controlRanges e'.message := by
  intro source e line read root e'
  obtain ⟨ofNode, ofText, roots, lines⟩ := error_on_one_line
  obtain ⟨clear, clear'⟩ := roots {} source
  have failed : Definition.parse {} source = .error e := by decide +kernel
  have same : "f" ++ ": " ++ e.message = line := by decide +kernel
  have failed' : (Definition.ofNode root).result = .error e' := by decide +kernel
  obtain ⟨single, paths, _, unlogged⟩ := lines source e failed rfl
  obtain ⟨cs, ds, each, each', written, _⟩ :=
    paths read .empty ["f"] .silent [] "f" [] (by decide) rfl
  have hidden := unlogged .silent (recorded cs) "f" fun _ _ _ => rfl
  cases each
  cases each'
  refine ⟨failed, same, ?_, (ofText Xml.read {} source e failed rfl clear).2 clear', ?_, failed',
    (ofNode root e' failed' (by decide)).1, by decide +kernel⟩
  · rw [← same]
    exact single "f" (by decide)
  · have last : summary 1 = "lelei_dump: 1 document(s) failed\n" := by decide +kernel
    rw [written, hidden, same, ← last]
    generalize line = text
    simp [Log.errors, failures]

end WireSchema
