import Mathlib
import KeywordSuite.Log.Journal
import KeywordSuite.Proofs.Host.Files
import KeywordSuite.Proofs.Log.Lines

/-!
# What comes into the file of a log

Whatever was set up before, a log that is set up with a file and sanitizes writes every record at or above its level
to the file once, and no other.
-/

namespace KeywordSuite

namespace LogSetup

variable {ε : Type}

/-- Of lines of which the last may be for a file, that one comes into the file and the others are given back. -/
theorem run_writeLines_last {file old : String} (last : Option String) :
    ∀ {others : List (LogTarget × String)} {h : Host ε},
      (∀ line ∈ others, ∀ path, line.1 ≠ .file path) → h.files.Holds (.ofText file) old →
    ∃ files, (writeLines (others ++ last.toList.map (LogTarget.file file, ·))).run h = (.ok others, { h with files }) ∧
      files.Holds (.ofText file) (old ++ String.join (last.toList.map (· ++ "\n")))
  | [], h, _, holds => by
    cases last with
    | none => exact ⟨h.files, rfl, by simpa using holds⟩
    | some line =>
      obtain ⟨files, writes, holds⟩ := run_appendText holds (line ++ "\n")
      refine ⟨files, ?_, by simpa using holds⟩
      exact (Act.run_bind_of_ok writes).trans rfl
  | (target, line) :: others, h, plain, holds => by
    obtain ⟨own, rest⟩ := List.forall_mem_cons.1 plain
    obtain ⟨files, writes, holds⟩ := run_writeLines_last last rest holds
    refine ⟨files, ?_, holds⟩
    cases target with
    | file path => exact absurd rfl (own path)
    | console => simp only [List.cons_append, writeLines, Act.run_bind, writes, Act.run_pure]
    | output => simp only [List.cons_append, writeLines, Act.run_bind, writes, Act.run_pure]

variable {threshold : Nat} {json : Bool} {file level format : String}

theorem new_sanitizing (named : file ≠ "") (known : levelNumber level = .ok threshold) :
    new level format (some file) true = .ok (sanitizing threshold (format = "json") file) := by
  unfold new
  rw [known]
  dsimp only [bind, Except.bind]
  rw [if_neg named]
  rfl

theorem run_openFiles_sanitizing (h : Host ε) :
    (openFiles (sanitizing threshold json file).handlers).run h = (appendText (.ofText file) "").run h := by
  have opens : openFiles (ε := ε) (sanitizing threshold json file).handlers =
      appendText (.ofText file) "" >>= fun _ => pure () := by
    cases json <;> rfl
  rw [opens]
  exact congrArg (fun act : Act (Host ε) Unit => act.run h) (bind_pure _)

end LogSetup

/-! ## Logging into the file -/

theorem extraFault?_eq_none {extra : Entries Value} :
    extraFault? extra = none ↔ ∀ name ∈ extra.keys, name ∉ reservedAttributes := by
  unfold extraFault?
  rw [Option.map_eq_none_iff, List.find?_eq_none]
  simp

namespace Journal

variable {ε α : Type} {threshold : Nat} {json : Bool} {file message old : String} {r : LogRecord} {j j' : Journal ε}

theorem run_onHost (act : Act (Host ε) α) (j : Journal ε) :
    (onHost act).run j = ((act.run j.host).1, { j with host := (act.run j.host).2 }) := rfl

/-- A sanitizing log with a file that holds a text. -/
structure Filing (threshold : Nat) (json : Bool) (file text : String) (j : Journal ε) : Prop where
  setup : j.setup = .sanitizing threshold json file
  holds : j.host.files.Holds (.ofText file) text

theorem run_log_of_allowed (enabled : ¬ r.level.number < j.level.number) (allowed : extraFault? r.extra = none)
    {lines : List (LogTarget × String)} {host : Host ε} (writes : (j.setup.write r).run j.host = (.ok lines, host)) :
    ∃ output, (Journal.log (.ok r)).run j = (.ok (some r), { j with output, host }) := by
  have checked : r.checked = .ok r := by rw [LogRecord.checked, allowed]
  refine ⟨j.output ++ (lines.filter fun line => line.1 == .output).map (·.2), ?_⟩
  unfold Journal.log
  rw [Act.run_bind, Act.run_ofExcept]
  dsimp only
  rw [Act.run_bind, Act.run_get]
  dsimp only
  rw [if_neg enabled, checked, Act.run_bind, Act.run_ofExcept]
  dsimp only
  rw [Act.run_bind, run_onHost, writes]
  rfl

theorem run_log_of_disabled (disabled : r.level.number < j.level.number) :
    (Journal.log (.ok r)).run j = (.ok none, j) := by
  unfold Journal.log
  rw [Act.run_bind, Act.run_ofExcept]
  dsimp only
  rw [Act.run_bind, Act.run_get]
  dsimp only
  rw [if_pos disabled]
  rfl

theorem run_log_of_refused (enabled : ¬ r.level.number < j.level.number) {fault : Fault}
    (refused : extraFault? r.extra = some fault) : (Journal.log (.ok r)).run j = (.error fault, j) := by
  unfold Journal.log
  rw [Act.run_bind, Act.run_ofExcept]
  dsimp only
  rw [Act.run_bind, Act.run_get]
  dsimp only
  rw [if_neg enabled, LogRecord.checked, refused]
  rfl

theorem Filing.write (filing : j.Filing threshold json file old) (r : LogRecord) :
    ∃ others files, (j.setup.write r).run j.host = (.ok others, { j.host with files }) ∧
      files.Holds (.ofText file)
        (old ++ String.join ((LogSetup.fileLine? threshold json file r j.host.now).toList.map (· ++ "\n"))) := by
  obtain ⟨others, plain, emitted⟩ := LogSetup.emit_sanitizing threshold json file r j.host.now
  obtain ⟨files, writes, holds⟩ := LogSetup.run_writeLines_last _ plain filing.holds
  refine ⟨others, files, ?_, holds⟩
  unfold LogSetup.write
  rw [Act.run_bind, Act.run_get]
  dsimp only
  rw [filing.setup, emitted, writes]

theorem Filing.exists_log (filing : j.Filing threshold json file old) (allowed : extraFault? r.extra = none) :
    ∃ answer j', (Journal.log (.ok r)).run j = (.ok answer, j') := by
  by_cases disabled : r.level.number < j.level.number
  · exact ⟨none, j, run_log_of_disabled disabled⟩
  · obtain ⟨others, files, writes, -⟩ := filing.write r
    obtain ⟨output, run⟩ := run_log_of_allowed disabled allowed writes
    exact ⟨some r, _, run⟩

/-- A record that is logged adds the line of the file's handler, and any other record none. -/
theorem Filing.log (filing : j.Filing threshold json file old) (r : LogRecord) :
    ∃ line? : Option String, ((Journal.log (.ok r)).run j).2.level = j.level ∧
      ((Journal.log (.ok r)).run j).2.Filing threshold json file (old ++ String.join (line?.toList.map (· ++ "\n"))) ∧
      (line? = none ∧ (r.level.number < j.level.number ∨ ∃ name ∈ r.extra.keys, name ∈ reservedAttributes) ∨
        line? = LogSetup.fileLine? threshold json file r j.host.now ∧ j.level.number ≤ r.level.number ∧
          ∀ name ∈ r.extra.keys, name ∉ reservedAttributes) := by
  have unchanged : j.Filing threshold json file (old ++ String.join ((none : Option String).toList.map (· ++ "\n"))) := by
    simpa using filing
  by_cases disabled : r.level.number < j.level.number
  · rw [run_log_of_disabled disabled]
    exact ⟨none, rfl, unchanged, .inl ⟨rfl, .inl disabled⟩⟩
  by_cases allowed : ∀ name ∈ r.extra.keys, name ∉ reservedAttributes
  · obtain ⟨others, files, writes, holds⟩ := filing.write r
    obtain ⟨output, run⟩ := run_log_of_allowed disabled (extraFault?_eq_none.2 allowed) writes
    rw [run]
    exact ⟨_, rfl, ⟨filing.setup, holds⟩, .inr ⟨rfl, Nat.not_lt.1 disabled, allowed⟩⟩
  · cases refused : extraFault? r.extra with
    | none => exact absurd (extraFault?_eq_none.1 refused) allowed
    | some fault =>
      push Not at allowed
      rw [run_log_of_refused disabled refused]
      exact ⟨none, rfl, unchanged, .inl ⟨rfl, .inr allowed⟩⟩

theorem Filing.log_plain (filing : j.Filing threshold json file old) (plain : r.IsPlain message) :
    ∃ line? : Option String, ((Journal.log (.ok r)).run j).2.level = j.level ∧
      ((Journal.log (.ok r)).run j).2.Filing threshold json file (old ++ String.join (line?.toList.map (· ++ "\n"))) ∧
      r.Filed j.level.number threshold json j.host.now line? := by
  obtain ⟨line?, level, filing, ⟨rfl, disabled | ⟨name, given, reserved⟩⟩ | ⟨rfl, enabled, allowed⟩⟩ := filing.log r
  · exact ⟨none, level, filing, .disabled disabled⟩
  · exact ⟨none, level, filing, .refused given reserved⟩
  · exact ⟨_, level, filing, LogSetup.filed_fileLine? plain enabled allowed⟩

/-- Records are logged one after another, at some time each. In between, whatever lies further out leaves the text
of the file. -/
inductive Logs (file : String) : Journal ε → List (Timestamp × LogRecord) → Journal ε → Prop
  | done {j : Journal ε} : Logs file j [] j
  | log {j j' : Journal ε} {calls : List (Timestamp × LogRecord)} (r : LogRecord) :
      Logs file ((Journal.log (.ok r)).run j).2 calls j' → Logs file j ((j.host.now, r) :: calls) j'
  | passed {j j' : Journal ε} {calls : List (Timestamp × LogRecord)} {host : Host ε} :
      (∀ text, j.host.files.Holds (.ofText file) text → host.files.Holds (.ofText file) text) →
      Logs file { j with host } calls j' → Logs file j calls j'

theorem Filing.logs (filing : j.Filing threshold json file old) {calls : List (Timestamp × LogRecord)}
    (logs : Logs file j calls j') (plain : ∀ call ∈ calls, ∃ message, call.2.IsPlain message) :
    ∃ lines : List (Option String),
      List.Forall₂ (fun call line? => call.2.Filed j.level.number threshold json call.1 line?) calls lines ∧
      j'.Filing threshold json file (old ++ String.join (lines.reduceOption.map (· ++ "\n"))) := by
  induction logs generalizing old with
  | done => exact ⟨[], .nil, by simpa [List.reduceOption] using filing⟩
  | passed keeps _ ih => exact ih ⟨filing.setup, keeps _ filing.holds⟩ plain
  | @log j j' calls r _ ih =>
    obtain ⟨⟨message, own⟩, others⟩ := List.forall_mem_cons.1 plain
    obtain ⟨line?, level, filing, filed⟩ := filing.log_plain own
    obtain ⟨lines, all, filing⟩ := ih filing others
    rw [level] at all
    have whole : (line? :: lines).reduceOption.map (· ++ "\n") =
        line?.toList.map (· ++ "\n") ++ lines.reduceOption.map (· ++ "\n") := by
      cases line? <;> rfl
    refine ⟨line? :: lines, .cons filed all, ?_⟩
    rw [whole, String.join_append, ← String.append_assoc]
    exact filing

/-! ## Setting up -/

variable {level format : String} {start : Journal ε} {answer : Option LogRecord}

/-- If its file can be opened, a log that is set up goes on from there, with all that was set up before replaced. -/
theorem run_setUp (named : file ≠ "") (known : levelNumber level = .ok threshold) (start : Journal ε) :
    (setUp level format (some file) true).run start =
      match (LogSetup.appendText (.ofText file) "").run start.host with
      | (.ok (), host) => (Journal.log (.ok (LogSetup.firstRecord level format (some file) true))).run
          { start with host, setup := .sanitizing threshold (format = "json") file }
      | (.error fault, host) =>
        (.error fault, { start with
          host, setup := ⟨start.setup.rootLevel, [LogSetup.consoleHandler threshold (format = "json") true]⟩ }) := by
  unfold setUp
  rw [LogSetup.new_sanitizing named known, Act.run_bind, Act.run_ofExcept]
  dsimp only
  rw [Act.run_bind, Act.run_modify]
  dsimp only
  rw [Act.run_bind, run_onHost, LogSetup.run_openFiles_sanitizing]
  dsimp only
  cases (LogSetup.appendText (.ofText file) "").run start.host with
  | mk outcome host => cases outcome <;> rfl

theorem filing_of_setUp (named : file ≠ "") (ran : (setUp level format (some file) true).run start = (.ok answer, j)) :
    ∃ threshold text, levelNumber level = .ok threshold ∧ j.level = start.level ∧
      j.Filing threshold (format = "json") file text := by
  cases known : levelNumber level with
  | error fault =>
    have ended : ((setUp level format (some file) true).run start).1 = .error fault := by
      refine Act.run_bind_of_error ?_
      unfold LogSetup.new
      rw [known]
      rfl
    rw [ran] at ended
    cases ended
  | ok threshold =>
    cases opens : (LogSetup.appendText (.ofText file) "").run start.host with
    | mk outcome host =>
      rw [run_setUp named known, opens] at ran
      cases outcome with
      | error fault => cases ran
      | ok =>
        obtain ⟨text, holds⟩ := LogSetup.holds_of_appendText opens
        have ready : Filing threshold (format = "json") file text
            { start with host, setup := .sanitizing threshold (format = "json") file } := ⟨rfl, holds⟩
        obtain ⟨line?, level, filing, -⟩ := ready.log (LogSetup.firstRecord level format (some file) true)
        dsimp only at ran
        rw [ran] at level filing
        exact ⟨threshold, _, rfl, level, filing⟩

/-- A log can be set up with a level that is known and a file that can be written. -/
theorem exists_setUp (named : file ≠ "") (known : levelNumber level = .ok threshold)
    (takes : start.host.files.Takes (.ofText file)) :
    ∃ answer j, (setUp level format (some file) true).run start = (.ok answer, j) := by
  obtain ⟨host, opens⟩ := LogSetup.exists_appendText takes ""
  obtain ⟨text, holds⟩ := LogSetup.holds_of_appendText opens
  have ready : Filing threshold (format = "json") file text
      { start with host, setup := .sanitizing threshold (format = "json") file } := ⟨rfl, holds⟩
  have allowed : extraFault? (LogSetup.firstRecord level format (some file) true).extra = none :=
    extraFault?_eq_none.2 (by simp [LogSetup.firstRecord, Entries.keys, reservedAttributes])
  rw [run_setUp named known, opens]
  exact ready.exists_log allowed

def loginRecord (level : LogLevel) : LogRecord where
  logger := "keyrunner.sample"
  level := level
  message := .text "password=hunter2"
  arguments := .none
  moduleName := "sample"
  function := "fn"
  line := 42
  thread := "MainThread"
  fault := none
  extra := [("test_id", .text "TC1"), ("attempt", .int 2)]

def quietJournal : Journal Unit := ⟨.debug, ⟨30, []⟩, [], .start ⟨⟨2024, 5, 1⟩, ⟨14, 30, 0, 0⟩, none⟩ [] ()⟩

theorem takes_quietJournal : quietJournal.host.files.Takes (.ofText "run.log") := by
  have text : (FilePath.ofText "run.log").text = "run.log" := by decide +kernel
  refine ⟨["run.log"], ?_, fun made => by simp [quietJournal, Host.start, Files.empty, Files.node?]⟩
  rw [Files.locate_eq (by rw [text]; decide) (by rw [text]; decide +kernel)]
  rfl

theorem filed_loginRecord {now : Timestamp} {line? : Option String}
    (filed : (loginRecord .info).Filed 10 20 false now line?) :
    line? = some (LogRecord.clockText now ++ " - MainThread - keyrunner.sample - INFO - password=********") := by
  cases filed with
  | below low => exact absurd low (by decide)
  | disabled low => exact absurd low (by decide)
  | refused given reserved =>
    have free : ∀ name ∈ (loginRecord .info).extra.keys, name ∉ reservedAttributes := by decide +kernel
    exact absurd reserved (free _ given)
  | unwritable never => cases never
  | written _ _ _ _ message shown _ shows =>
    cases message
    cases shows
    have hidden : Sanitizer.standard.sanitizeString^[LogRecord.passes false] "password=hunter2" =
        "password=********" := by
      decide +kernel
    rw [hidden] at shown
    subst shown
    simp [loginRecord, LogLevel.label, String.append_assoc]

end Journal

end KeywordSuite
