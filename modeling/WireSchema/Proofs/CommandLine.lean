import Mathlib.Data.List.Forall2
import WireSchema.CommandLine.Directory

/-!
Runs of the command line. Every path contributes either a block of the output or a message of the
error output, by what is found under it and by nothing else; a run over paths puts the contributions
together in order and counts the messages. What the log writes stands in the error output before the
message, or before what would be its place.
-/
namespace WireSchema.CommandLine

namespace Log

/-- The text of records that follow a number of others. -/
def lines (log : Log) : Nat → List Record → String
  | _, [] => ""
  | earlier, record :: records => log earlier record ++ log.lines (earlier + 1) records

def PassesOver (log : Log) (records : List Record) : Prop :=
  ∀ record ∈ records, ∀ earlier, log earlier record = ""

/-- Logs with the standard filter, `lelei=info`, or with one that passes over more. -/
def FromInfo (log : Log) : Prop :=
  ∀ record, record.level ≠ .info → ∀ earlier, log earlier record = ""

variable {log : Log} {records : List Record}

theorem lines_of_passesOver (hidden : log.PassesOver records) (earlier : Nat) :
    log.lines earlier records = "" := by
  induction records generalizing earlier with
  | nil => rfl
  | cons record records ih =>
    obtain ⟨first, rest⟩ := List.forall_mem_cons.mp hidden
    rw [lines, first, ih rest, String.empty_append]

theorem FromInfo.passesOver (filtered : log.FromInfo)
    (below : ∀ record ∈ records, record.level ≠ .info) : log.PassesOver records :=
  fun record member => filtered record (below record member)

end Log

inductive Output
  | block (text : String)
  | message (text : String)
  deriving DecidableEq, Repr

/-- What comes of a path: records for the log, and then text for one of the outputs. -/
structure Contribution where
  records : List Record
  output : Output
  deriving DecidableEq, Repr

namespace Contribution

def stdout (c : Contribution) : String :=
  match c.output with
  | .block text => text
  | .message _ => ""

def message (c : Contribution) : String :=
  match c.output with
  | .block _ => ""
  | .message text => text

def isMessage (c : Contribution) : Bool :=
  match c.output with
  | .block _ => false
  | .message _ => true

end Contribution

def recordsOf (source : String) : List Record :=
  (Definition.trace {} source).entries.map .ofEvent

/-- What a path contributes under which no file can be read, or one that is no text, or a text that is
refused, or a definition. -/
inductive Contributes (style : Style) (path : String) :
    Except ReadError ByteArray → Contribution → Prop
  | unreadable (e : ReadError) :
      Contributes style path (.error e) ⟨[], .message (path ++ ": " ++ e.reason ++ "\n")⟩
  | undecodable (bytes : ByteArray) (broken : ∀ source : String, source.toUTF8 ≠ bytes) :
      Contributes style path (.ok bytes)
        ⟨[], .message (path ++ ": " ++ "stream did not contain valid UTF-8" ++ "\n")⟩
  | refused (source : String) (e : ParseError) (failed : Definition.parse {} source = .error e) :
      Contributes style path (.ok source.toUTF8)
        ⟨recordsOf source ++ [.refused path e], .message (path ++ ": " ++ e.message ++ "\n")⟩
  | accepted (source : String) (d : Definition) (parsed : Definition.parse {} source = .ok d) :
      Contributes style path (.ok source.toUTF8)
        ⟨recordsOf source ++ [.accepted path d], .block (present style path d)⟩

theorem decode_toUTF8 (source : String) : decode source.toUTF8 = .ok source := by
  have found : String.fromUTF8? source.toUTF8 = some source := dif_pos source.isValidUTF8
  rw [decode, found]

theorem decode_of_broken {bytes : ByteArray} (broken : ∀ source : String, source.toUTF8 ≠ bytes) :
    decode bytes = .error .notUtf8 := by
  have invalid : String.fromUTF8? bytes = none := by
    apply dif_neg
    intro valid
    exact broken (String.fromUTF8 bytes valid) rfl
  rw [decode, invalid]

/-- What a text contributes under a label. -/
def reading (style : Style) (label source : String) : Contribution :=
  match Definition.parse {} source with
  | .error e =>
    ⟨recordsOf source ++ [.refused label e], .message (label ++ ": " ++ e.message ++ "\n")⟩
  | .ok d => ⟨recordsOf source ++ [.accepted label d], .block (present style label d)⟩

def contribution (style : Style) (path : String) (found : Except ReadError ByteArray) :
    Contribution :=
  match found.bind decode with
  | .error e => ⟨[], .message (path ++ ": " ++ e.reason ++ "\n")⟩
  | .ok source => reading style path source

theorem reading_of_refused {source : String} {e : ParseError}
    (failed : Definition.parse {} source = .error e) (style : Style) (label : String) :
    reading style label source =
      ⟨recordsOf source ++ [.refused label e], .message (label ++ ": " ++ e.message ++ "\n")⟩ := by
  unfold reading
  rw [failed]

theorem reading_of_accepted {source : String} {d : Definition}
    (parsed : Definition.parse {} source = .ok d) (style : Style) (label : String) :
    reading style label source =
      ⟨recordsOf source ++ [.accepted label d], .block (present style label d)⟩ := by
  unfold reading
  rw [parsed]

theorem contribution_of_text (style : Style) (path source : String) :
    contribution style path (.ok source.toUTF8) = reading style path source := by
  simp only [contribution, Except.bind, decode_toUTF8]

theorem contributes_iff {style : Style} {path : String} {found : Except ReadError ByteArray}
    {c : Contribution} : Contributes style path found c ↔ c = contribution style path found := by
  constructor
  · intro given
    cases given with
    | unreadable e => rfl
    | undecodable bytes broken =>
      simp only [contribution, Except.bind, decode_of_broken broken, ReadError.reason]
    | refused source e failed => rw [contribution_of_text, reading_of_refused failed]
    | accepted source d parsed => rw [contribution_of_text, reading_of_accepted parsed]
  · rintro rfl
    cases found with
    | error e => exact .unreadable e
    | ok bytes =>
      by_cases text : ∃ source : String, source.toUTF8 = bytes
      · obtain ⟨source, rfl⟩ := text
        rw [contribution_of_text]
        cases parsed : Definition.parse {} source with
        | error e => rw [reading_of_refused parsed]; exact .refused source e parsed
        | ok d => rw [reading_of_accepted parsed]; exact .accepted source d parsed
      · have broken : ∀ source : String, source.toUTF8 ≠ bytes := fun source same =>
          text ⟨source, same⟩
        simp only [contribution, Except.bind, decode_of_broken broken]
        exact .undecodable bytes broken

theorem Contributes.one_output {style : Style} {path : String}
    {found : Except ReadError ByteArray} {c : Contribution} (given : Contributes style path found c) :
    (c.stdout = "" ↔ c.isMessage = true) ∧ (c.message = "" ↔ c.isMessage = false) := by
  cases given <;> simp [Contribution.stdout, Contribution.message, Contribution.isMessage]
  cases style <;> simp [present]

theorem level_ofEvent (event : Event) : (Record.ofEvent event).level ≠ .info := by
  unfold Record.ofEvent
  cases event.level <;> exact Level.noConfusion

theorem level_of_refused (source label : String) (e : ParseError) :
    ∀ record ∈ recordsOf source ++ [.refused label e], record.level ≠ .info := by
  rw [List.forall_mem_append]
  constructor
  · intro record member
    obtain ⟨event, _, rfl⟩ := List.mem_map.mp member
    exact level_ofEvent event
  · rw [List.forall_mem_singleton]
    exact Level.noConfusion

theorem Contributes.level_of_message {style : Style} {path : String}
    {found : Except ReadError ByteArray} {c : Contribution} (given : Contributes style path found c)
    (failed : c.isMessage = true) : ∀ record ∈ c.records, record.level ≠ .info := by
  cases given with
  | unreadable e => exact List.forall_mem_nil _
  | undecodable bytes broken => exact List.forall_mem_nil _
  | refused source e failed => exact level_of_refused source path e
  | accepted source d parsed => contradiction

section
variable (contributions : List Contribution)

def failures : Nat := contributions.countP (·.isMessage)

def recorded : Nat := (contributions.flatMap (·.records)).length

def blocks : String := String.join (contributions.map (·.stdout))

def messages : String := String.join (contributions.map (·.message))

end

/-- The error output of contributions that follow a number of records. -/
def Log.errors (log : Log) : Nat → List Contribution → String
  | _, [] => ""
  | earlier, c :: cs =>
    log.lines earlier c.records ++ c.message ++ log.errors (earlier + c.records.length) cs

theorem Log.errors_append (log : Log) (earlier : Nat) (cs ds : List Contribution) :
    log.errors earlier (cs ++ ds) = log.errors earlier cs ++ log.errors (earlier + recorded cs) ds := by
  induction cs generalizing earlier with
  | nil => simp [errors, recorded]
  | cons c cs ih =>
    simp [errors, ih, recorded, String.append_assoc, Nat.add_assoc]

theorem Log.errors_of_passesOver {log : Log} {cs : List Contribution}
    (hidden : ∀ c ∈ cs, log.PassesOver c.records) (earlier : Nat) :
    log.errors earlier cs = messages cs := by
  induction cs generalizing earlier with
  | nil => rfl
  | cons c cs ih =>
    obtain ⟨first, rest⟩ := List.forall_mem_cons.mp hidden
    rw [errors, lines_of_passesOver first, String.empty_append, ih rest]
    simp [messages]

/-- The last line of the error output, if anything failed. -/
def summary (failures : Nat) : String :=
  if failures = 0 then ""
  else "lelei_dump: " ++ Text.decimal failures ++ " document(s) failed\n"

/-- The outcome of contributions: each output has its own in order, and then the failures are counted. -/
def outcomeOf (log : Log) (contributions : List Contribution) : Outcome where
  code := if failures contributions = 0 then 0 else 1
  stdout := blocks contributions
  stderr := log.errors 0 contributions ++ summary (failures contributions)

theorem outcomeOf_append (log : Log) (cs ds : List Contribution) :
    outcomeOf log (cs ++ ds) =
      { code := if failures cs + failures ds = 0 then 0 else 1
        stdout := blocks cs ++ blocks ds
        stderr := log.errors 0 cs ++ log.errors (recorded cs) ds ++
          summary (failures cs + failures ds) } := by
  simp [outcomeOf, failures, blocks, Log.errors_append]

theorem outcomeOf_of_passesOver {log : Log} {cs : List Contribution}
    (hidden : ∀ c ∈ cs, log.PassesOver c.records) :
    outcomeOf log cs =
      { code := if failures cs = 0 then 0 else 1
        stdout := blocks cs
        stderr := messages cs ++ summary (failures cs) } := by
  rw [outcomeOf, Log.errors_of_passesOver hidden]

namespace Session
variable {log : Log} {read : String → Except ReadError ByteArray} {style : Style}

def after (log : Log) (session : Session) (contributions : List Contribution) : Session where
  failures := session.failures + CommandLine.failures contributions
  recorded := session.recorded + CommandLine.recorded contributions
  stdout := session.stdout ++ blocks contributions
  stderr := session.stderr ++ log.errors session.recorded contributions

theorem after_nil (session : Session) : session.after log [] = session := by
  simp [after, CommandLine.failures, CommandLine.recorded, blocks, Log.errors]

theorem after_cons (session : Session) (c : Contribution) (cs : List Contribution) :
    session.after log (c :: cs) = (session.after log [c]).after log cs := by
  simp [after, CommandLine.failures, CommandLine.recorded, blocks, Log.errors, List.countP_cons,
    Nat.add_comm, Nat.add_left_comm, Nat.add_assoc, String.append_assoc]

theorem foldl_record (session : Session) (records : List Record) :
    records.foldl (record log) session =
      { session with
        recorded := session.recorded + records.length
        stderr := session.stderr ++ log.lines session.recorded records } := by
  induction records generalizing session with
  | nil => simp [Log.lines]
  | cons r records ih =>
    rw [List.foldl_cons, ih]
    simp [record, Log.lines, String.append_assoc, Nat.add_assoc, Nat.add_comm 1]

theorem print_eq_after (session : Session) (records : List Record) (block : String) :
    (records.foldl (record log) session).print block =
      session.after log [⟨records, .block block⟩] := by
  rw [foldl_record]
  simp [print, after, CommandLine.failures, CommandLine.recorded, blocks, Log.errors,
    Contribution.stdout, Contribution.message, Contribution.isMessage]

theorem fail_eq_after (session : Session) (records : List Record) (label reason : String) :
    (records.foldl (record log) session).fail label reason =
      session.after log [⟨records, .message (label ++ ": " ++ reason ++ "\n")⟩] := by
  rw [foldl_record]
  simp [fail, after, CommandLine.failures, CommandLine.recorded, blocks, Log.errors,
    Contribution.stdout, Contribution.message, Contribution.isMessage, String.append_assoc]

theorem dump_eq_after (session : Session) (label source : String) :
    session.dump log style label source = session.after log [reading style label source] := by
  change ((recordsOf source).foldl (record log) session).conclude log style label
    (Definition.parse {} source) = _
  cases parsed : Definition.parse {} source with
  | error e =>
    rw [reading_of_refused parsed, ← fail_eq_after, List.foldl_append]
    rfl
  | ok d =>
    rw [reading_of_accepted parsed, ← print_eq_after, List.foldl_append]
    rfl

theorem visit_eq_after (session : Session) (path : String) :
    session.visit log read style path = session.after log [contribution style path (read path)] := by
  unfold visit contribution
  cases (read path).bind decode with
  | error e => exact session.fail_eq_after [] path e.reason
  | ok source => exact session.dump_eq_after path source

theorem foldl_visit_eq_after (session : Session) (paths : List String) :
    paths.foldl (visit log read style) session =
      session.after log (paths.map fun path => contribution style path (read path)) := by
  -- Each visit starts from the session that the visits before it have left.
  induction paths generalizing session with
  | nil => rw [List.foldl_nil, List.map_nil, after_nil]
  | cons path paths ih =>
    rw [List.foldl_cons, List.map_cons, after_cons, ih, visit_eq_after]

theorem finish_after (contributions : List Contribution) :
    (after log {} contributions).finish = outcomeOf log contributions := by
  simp only [finish, after, outcomeOf, summary, Nat.zero_add, String.empty_append]
  split <;> simp [*]

end Session

theorem run_of_paths {arguments : List String} (given : pathsOf arguments ≠ [])
    (read : String → Except ReadError ByteArray) (stdin : ByteArray) (log : Log) :
    run read stdin arguments log = outcomeOf log
      ((pathsOf arguments).map fun path => contribution (styleOf arguments) path (read path)) := by
  unfold run
  split
  next missing => exact absurd missing given
  next =>
    dsimp only
    rw [Session.foldl_visit_eq_after, Session.finish_after]

theorem contributes_each (style : Style) (paths : List String)
    {read : String → Except ReadError ByteArray} :
    List.Forall₂ (fun path c => Contributes style path (read path) c) paths
      (paths.map fun path => contribution style path (read path)) := by
  rw [List.forall₂_map_right_iff, List.forall₂_same]
  exact fun path _ => contributes_iff.mpr rfl

theorem isFlag_iff {argument : String} :
    isFlag argument = true ↔ argument = "-d" ∨ argument = "--debug" := by
  simp [isFlag]

theorem pathsOf_of_no_flag {arguments : List String}
    (unflagged : ∀ a ∈ arguments, isFlag a = false) :
    pathsOf arguments = arguments ∧ styleOf arguments = .report := by
  constructor
  · exact List.eraseP_of_forall_not fun a member => by simp [unflagged a member]
  · rw [styleOf, if_neg]
    simpa using unflagged

theorem pathsOf_of_flag {before : List String} {flag : String}
    (unflagged : ∀ a ∈ before, isFlag a = false) (flagged : isFlag flag = true)
    (after : List String) :
    pathsOf (before ++ flag :: after) = before ++ after ∧
      styleOf (before ++ flag :: after) = .outline := by
  constructor
  · rw [pathsOf, List.eraseP_append_right _ (fun a member => by simp [unflagged a member]),
      List.eraseP_cons_of_pos flagged]
  · rw [styleOf, if_pos]
    simp [flagged]

theorem run_of_no_flag {paths : List String} (unflagged : ∀ a ∈ paths, isFlag a = false)
    (given : paths ≠ []) (read : String → Except ReadError ByteArray) (stdin : ByteArray)
    (log : Log) :
    run read stdin paths log =
      outcomeOf log (paths.map fun path => contribution .report path (read path)) := by
  obtain ⟨all, style⟩ := pathsOf_of_no_flag unflagged
  rw [run_of_paths (by rwa [all]) read stdin log, all, style]

theorem run_congr {arguments others : List String} (paths : pathsOf arguments = pathsOf others)
    (style : styleOf arguments = styleOf others) (read : String → Except ReadError ByteArray)
    (stdin : ByteArray) (log : Log) :
    run read stdin arguments log = run read stdin others log := by
  unfold run
  rw [paths, style]

/-- Each path contributes one thing, to one of the outputs, by what is found under it. A run puts the
contributions of its paths together, with a last line and an exit code by the number of failures; so
the outputs of two runs are joined and their failures added if their paths are. The first flag chooses
the style, and neither its place before the next flag nor its form matters. The error output has what
the log writes of the records too; where it passes over them, there are only the messages and the last
line, and the standard filter passes over those of every path that fails. -/
theorem run_by_contributions (read : String → Except ReadError ByteArray) (stdin : ByteArray)
    (log : Log) :
    (∀ argument, isFlag argument = true ↔ argument = "-d" ∨ argument = "--debug") ∧
    (∀ arguments, (∀ a ∈ arguments, isFlag a = false) →
      pathsOf arguments = arguments ∧ styleOf arguments = .report) ∧
    (∀ before flag after, (∀ a ∈ before, isFlag a = false) → isFlag flag = true →
      pathsOf (before ++ flag :: after) = before ++ after ∧
      styleOf (before ++ flag :: after) = .outline) ∧
    (∀ style path found, ∃ c, (∀ c', Contributes style path found c' ↔ c' = c) ∧
      (c.stdout = "" ↔ c.isMessage = true) ∧ (c.message = "" ↔ c.isMessage = false) ∧
      (log.FromInfo → c.isMessage = true → log.PassesOver c.records)) ∧
    (∀ arguments, pathsOf arguments ≠ [] → ∃ contributions,
      List.Forall₂ (fun path c => Contributes (styleOf arguments) path (read path) c)
        (pathsOf arguments) contributions ∧
      run read stdin arguments log = outcomeOf log contributions ∧
      ((∀ c ∈ contributions, log.PassesOver c.records) →
        run read stdin arguments log =
          { code := if failures contributions = 0 then 0 else 1
            stdout := blocks contributions
            stderr := messages contributions ++ summary (failures contributions) })) ∧
    (∀ paths more, paths ≠ [] → more ≠ [] → (∀ a ∈ paths ++ more, isFlag a = false) →
      ∃ cs ds, List.Forall₂ (fun path c => Contributes .report path (read path) c) paths cs ∧
        List.Forall₂ (fun path c => Contributes .report path (read path) c) more ds ∧
        run read stdin (paths ++ more) log =
          { code := if failures cs + failures ds = 0 then 0 else 1
            stdout := (run read stdin paths log).stdout ++ (run read stdin more log).stdout
            stderr := log.errors 0 cs ++ log.errors (recorded cs) ds ++
              summary (failures cs + failures ds) }) ∧
    (∀ before flag after before' flag' after', (∀ a ∈ before, isFlag a = false) →
      isFlag flag = true → (∀ a ∈ before', isFlag a = false) → isFlag flag' = true →
      before ++ after = before' ++ after' →
      run read stdin (before ++ flag :: after) log =
        run read stdin (before' ++ flag' :: after') log) := by
  refine ⟨fun _ => isFlag_iff, fun _ => pathsOf_of_no_flag,
    fun _ _ after unflagged flagged => pathsOf_of_flag unflagged flagged after, ?_, ?_, ?_, ?_⟩
  · intro style path found
    have given : Contributes style path found (contribution style path found) :=
      contributes_iff.mpr rfl
    obtain ⟨output, errors⟩ := given.one_output
    exact ⟨_, fun c' => contributes_iff, output, errors,
      fun filtered failed => filtered.passesOver (given.level_of_message failed)⟩
  · intro arguments given
    have told := run_of_paths given read stdin log
    refine ⟨_, contributes_each _ _, told, ?_⟩
    intro hidden
    rw [told, outcomeOf_of_passesOver hidden]
  · intro paths more given given' unflagged
    obtain ⟨before, after⟩ := List.forall_mem_append.mp unflagged
    rw [run_of_no_flag before given, run_of_no_flag after given',
      run_of_no_flag unflagged (List.append_ne_nil_of_left_ne_nil given more), List.map_append,
      outcomeOf_append]
    exact ⟨_, _, contributes_each _ paths, contributes_each _ more, rfl⟩
  · intro before flag after before' flag' after' unflagged flagged unflagged' flagged' same
    obtain ⟨paths, style⟩ := pathsOf_of_flag unflagged flagged after
    obtain ⟨paths', style'⟩ := pathsOf_of_flag unflagged' flagged' after'
    exact run_congr (by rw [paths, paths', same]) (by rw [style, style']) read stdin log

/-- A run with a file that is refused, named twice, a definition and a missing file, with either flag
in two places; the report on the definition alone, which has no failure; and what a log with the
standard filter makes of a file that is refused and a definition. -/
theorem run_over_four_paths :
    let source := "<protocol><protocolname>p</protocolname><structure><name>s</name></structure>" ++
      "<header><name>h</name><id_field_name>a</id_field_name></header></protocol>"
    let d : Definition := ⟨⟨"p", "p"⟩, ⟨"s", .bigEndian, []⟩, ⟨"h", "a"⟩, none⟩
    let read := fun path =>
      if path = "good" then .ok source.toUTF8
      else if path = "bad" then .ok "<protocol/>".toUTF8
      else .error ReadError.notFound
    let log : Log := fun earlier record =>
      if record.level = .info then Text.decimal earlier ++ " " ++ record.message ++ "\n" else ""
    let outcome : Outcome := ⟨1, "good: " ++ d.outline.spread ++ "\n",
      "bad: structural error: missing <structure> section\n" ++
      "bad: structural error: missing <structure> section\n" ++
      "none: No such file or directory (os error 2)\nlelei_dump: 3 document(s) failed\n"⟩
    run read .empty ["bad", "-d", "good", "bad", "none"] = outcome ∧
      run read .empty ["--debug", "bad", "good", "bad", "none"] = outcome ∧
      run read .empty ["good"] = ⟨0, "good:\n" ++ d.report, ""⟩ ∧
      (run read .empty ["good", "good"]).stdout = "good:\n" ++ d.report ++ ("good:\n" ++ d.report) ∧
      log.FromInfo ∧
      run read .empty ["bad", "good"] log = ⟨1, "good:\n" ++ d.report,
        "bad: structural error: missing <structure> section\n5 parsed\n" ++
        "lelei_dump: 1 document(s) failed\n"⟩ := by
  intro source d read log outcome
  obtain ⟨_, unflagged, flagged, unique, law, joined, moved⟩ :=
    run_by_contributions read .empty .silent
  obtain ⟨_, _, _, _, logged, _⟩ := run_by_contributions read .empty log
  have good (style : Style) : Contributes style "good" (read "good")
      ⟨recordsOf source ++ [.accepted "good" d], .block (present style "good" d)⟩ :=
    .accepted source d (by decide +kernel)
  let e : ParseError := .structural (.missingSection "structure")
  have bad (style : Style) : Contributes style "bad" (read "bad")
      ⟨recordsOf "<protocol/>" ++ [.refused "bad" e],
        .message "bad: structural error: missing <structure> section\n"⟩ :=
    .refused "<protocol/>" e (by decide +kernel)
  have missing (style : Style) : Contributes style "none" (read "none")
      ⟨[], .message "none: No such file or directory (os error 2)\n"⟩ := .unreadable .notFound
  have determined (style : Style) {paths : List String} {cs ds : List Contribution}
      (h : List.Forall₂ (fun path c => Contributes style path (read path) c) paths cs)
      (h' : List.Forall₂ (fun path c => Contributes style path (read path) c) paths ds) : cs = ds := by
    apply List.right_unique_forall₂' _ h h'
    intro path c c' given given'
    obtain ⟨_, only, _⟩ := unique style path (read path)
    rw [(only c).mp given, (only c').mp given']
  have all : run read .empty ["bad", "-d", "good", "bad", "none"] = outcome := by
    obtain ⟨paths, style⟩ := flagged ["bad"] "-d" ["good", "bad", "none"] (by decide) (by decide)
    obtain ⟨cs, each, _, quiet⟩ :=
      law (["bad"] ++ "-d" :: ["good", "bad", "none"]) (by rw [paths]; simp)
    rw [paths, style] at each
    have told := determined .outline each
      (.cons (bad _) (.cons (good _) (.cons (bad _) (.cons (missing _) .nil))))
    change run read .empty (["bad"] ++ "-d" :: ["good", "bad", "none"]) = outcome
    rw [quiet fun _ _ _ _ _ => rfl, told]
    decide +kernel
  have alone : run read .empty ["good"] = ⟨0, "good:\n" ++ d.report, ""⟩ := by
    obtain ⟨paths, style⟩ := unflagged ["good"] (by decide)
    obtain ⟨cs, each, _, quiet⟩ := law ["good"] (by simp [paths])
    rw [paths, style] at each
    rw [quiet fun _ _ _ _ _ => rfl, determined .report each (.cons (good _) .nil)]
    decide +kernel
  refine ⟨all, ?_, alone, ?_, fun record below _ => if_neg below, ?_⟩
  · rw [← all]
    exact moved [] "--debug" _ ["bad"] "-d" _ (by decide) (by decide) (by decide) (by decide) rfl
  · obtain ⟨cs, ds, _, _, both⟩ := joined ["good"] ["good"] (by simp) (by simp) (by decide)
    rw [show ["good", "good"] = ["good"] ++ ["good"] from rfl, both, alone]
  · obtain ⟨paths, style⟩ := unflagged ["bad", "good"] (by decide)
    obtain ⟨cs, each, same, _⟩ := logged ["bad", "good"] (by simp [paths])
    rw [paths, style] at each
    rw [same, determined .report each (.cons (bad _) (.cons (good _) .nil))]
    decide +kernel

end WireSchema.CommandLine
