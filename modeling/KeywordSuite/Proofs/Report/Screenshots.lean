import KeywordSuite.Proofs.Host.Path
import KeywordSuite.Proofs.Session.Journal

/-!
# Where screenshots are saved

The file of a screenshot lies directly in the directory of screenshots, whatever its label: the name has no slash,
and the time and the ending after the label keep it from being a step back. A capture asks the unit's live session
once to save that file, and nothing else of any session.
-/

namespace KeywordSuite

/-! ## Names without slashes -/

theorem slash_not_mem_number (n : Nat) : '/' ∉ (toString n).toList := by
  intro held
  have digits : (toString n).toList = Nat.toDigits 10 n := by simp [toString, Nat.repr]
  rw [digits] at held
  exact absurd (Nat.isDigit_of_mem_toDigits (by omega) (by omega) held) (by decide)

theorem slash_not_mem_padLeft (width : Nat) {s : String} (plain : '/' ∉ s.toList) :
    '/' ∉ (padLeft width '0' s).toList := by
  simp [padLeft, List.mem_replicate, plain]

theorem slash_not_mem_compactMicrosecondText (t : Timestamp) : '/' ∉ t.compactMicrosecondText.toList := by
  have number := slash_not_mem_number
  have padded := fun width n => slash_not_mem_padLeft width (number n)
  have gap : '/' ∉ "_".toList := by decide
  simp only [Timestamp.compactMicrosecondText, Timestamp.compactText, twoDigits, String.toList_append, List.mem_append,
    number, padded, gap, or_self, not_false_eq_true]

namespace FilePath

/-- The text of one name is read as a path of that name. -/
theorem ofText_name {name : String} (plain : '/' ∉ name.toList) (some : name ≠ "") (other : name ≠ ".") :
    ofText name = ⟨"", [name]⟩ := by
  have lawful : Lawful ⟨"", [name]⟩ := ⟨by simp, by simpa using ⟨some, other, plain⟩⟩
  have text : FilePath.text ⟨"", [name]⟩ = name := by
    rw [← String.toList_inj]
    simp [FilePath.text]
  rw [← lawful.ofText_text, text]

theorem resolve_name (root : String) (parts : List String) {name : String} (forward : name ≠ "..")
    (working : List String) :
    resolve ⟨root, parts ++ [name]⟩ working = resolve ⟨root, parts⟩ working ++ [name] := by
  simp [resolve, isAbsolute, walk, forward]

end FilePath

namespace Screenshots

/-! ## The file of a screenshot -/

theorem slash_not_mem_fileName (label : String) : '/' ∉ (fileName label).toList := by
  intro held
  obtain ⟨c, -, same⟩ := List.mem_map.1 (by simpa [fileName] using held)
  by_cases forbidden : isForbidden c
  · simp [forbidden] at same
  · rw [if_neg forbidden] at same
    subst same
    exact forbidden (by decide)

/-- A file that lies directly in a directory and is named as a picture. -/
structure IsPictureIn (directory : FilePath) (file : String) : Prop where
  parent : (FilePath.ofText file).parent = directory
  ending : ∃ stem, (FilePath.ofText file).name = stem ++ ".png"
  place : ∀ working, (FilePath.ofText file).resolve working =
    directory.resolve working ++ [(FilePath.ofText file).name]

theorem isPictureIn_path {directory : FilePath} (lawful : directory.Lawful) (label : String) (now : Timestamp) :
    IsPictureIn directory (path directory label now).text := by
  generalize named : fileName label ++ "_" ++ now.compactMicrosecondText ++ ".png" = name
  have plain : '/' ∉ name.toList := by
    simp [← named, slash_not_mem_fileName, slash_not_mem_compactMicrosecondText]
  have ends : name.toList.getLast? = some 'g' := by
    rw [← named, String.toList_append, List.getLast?_append]
    rfl
  have some : name ≠ "" := by rintro rfl; simp at ends
  have other : name ≠ "." := by rintro rfl; simp at ends
  have forward : name ≠ ".." := by rintro rfl; simp at ends
  have whole : path directory label now = ⟨directory.root, directory.parts ++ [name]⟩ := by
    rw [path, named, FilePath.joinText, FilePath.ofText_name plain some other]
    rfl
  have lawful' : FilePath.Lawful ⟨directory.root, directory.parts ++ [name]⟩ := by
    refine ⟨lawful.root, fun part held => ?_⟩
    rcases List.mem_append.1 held with held | held
    · exact lawful.named part held
    · rw [List.mem_singleton.1 held]
      exact ⟨some, other, plain⟩
  have own : FilePath.name ⟨directory.root, directory.parts ++ [name]⟩ = name := by simp [FilePath.name]
  rw [whole]
  constructor
  · rw [lawful'.ofText_text]
    simp [FilePath.parent]
  · rw [lawful'.ofText_text, own]
    exact ⟨_, named.symm⟩
  · intro working
    rw [lawful'.ofText_text, own]
    exact FilePath.resolve_name _ _ forward working

/-! ## A capture -/

section

variable {ω : Type} (b : SessionBackend ω) (directory : FilePath) (unit : UnitId) (w : World (Recorded ω))

/-- What a capture comes to: it answers, and the live session of the unit, if it has one, was asked to save one
picture in the directory; there is no path exactly if there was no session or saving failed. -/
def Captures (ended : Except Fault (Option String) × World (Recorded ω)) : Prop :=
  ∃ file answer, IsPictureIn directory file ∧ ended.1 = .ok answer ∧ ended.2.sessions = w.sessions ∧
    ended.2.outer.journal = w.outer.journal ++
      ((w.sessions.live? unit).map fun n => SessionEvent.called n (.saveScreenshot file)).toList ∧
    (∀ shown, answer = some shown → shown = file) ∧
    (answer = none ↔ w.sessions.live? unit = none ∨ ∃ n fault, w.sessions.live? unit = some n ∧
      ((b.browse n (.saveScreenshot file)).run w.outer.outer).1 = .error fault)

variable {b directory unit w}

theorem captures_nothing (lawful : directory.Lawful) (idle : w.sessions.live? unit = none) (level : LogLevel)
    (message : String) : Captures b directory unit w
      (.ok none, { w with outer := b.recorded.log level message w.outer }) := by
  refine ⟨_, none, isPictureIn_path lawful "" default, rfl, rfl, ?_, by simp, by simp [idle]⟩
  simp [idle, SessionBackend.recorded]

theorem captures_onDemand (saves : ∀ n file, (b.browse n (.saveScreenshot file)).Ordinarily) (lawful : directory.Lawful)
    (clock : ω → Timestamp) (label : String) : Captures b directory unit w
      ((onDemand b.recorded (fun x => clock x.outer) directory label unit).run w) := by
  cases live : w.sessions.live? unit with
  | none =>
    obtain ⟨message, run⟩ := onDemand_idle b.recorded (fun x => clock x.outer) directory label live
    rw [run]
    exact captures_nothing lawful live .error message
  | some n =>
    obtain ⟨r, y, run, rest, answers⟩ := onDemand_live b.recorded (fun x => clock x.outer) directory label live
    generalize named : (path directory label (clock w.outer.outer)).text = file at rest answers
    have ordinary : Ordinary ((b.recorded.browse n (.saveScreenshot file)).run w.outer).1 := saves n file w.outer.outer
    have journal : y.journal = w.outer.journal ++ [.called n (.saveScreenshot file)] := by
      rcases rest with rfl | ⟨level, message, rfl⟩ <;> rfl
    have saved : ((b.recorded.browse n (.saveScreenshot file)).run w.outer).1 =
        ((b.browse n (.saveScreenshot file)).run w.outer.outer).1 := rfl
    rw [run]
    refine ⟨file, _, named ▸ isPictureIn_path lawful label _, answers ordinary, rfl, ?_, ?_, ?_⟩
    · simp [live, journal]
    · simp only [saved]
      split <;> simp
    · simp only [saved]
      cases ended : ((b.browse n (.saveScreenshot file)).run w.outer.outer).1 with
      | ok => simp [live, ended, Except.isOk, Except.toBool]
      | error fault => simp [live, ended, Except.isOk, Except.toBool]

theorem captures_onFailure (saves : ∀ n file, (b.browse n (.saveScreenshot file)).Ordinarily) (lawful : directory.Lawful)
    (clock : ω → Timestamp) (testId testName : String) : Captures b directory unit w
      ((onFailure b.recorded (fun x => clock x.outer) directory testId testName unit).run w) := by
  cases live : w.sessions.live? unit with
  | none =>
    obtain ⟨message, run⟩ := onFailure_idle b.recorded (fun x => clock x.outer) directory testId testName live
    rw [run]
    exact captures_nothing lawful live .info message
  | some n =>
    rw [onFailure_live b.recorded (fun x => clock x.outer) directory testId testName live]
    exact captures_onDemand saves lawful clock _

end

/-- Whatever the label or the name of the test case, a capture raises nothing as long as saving is not interrupted,
and saves at most one picture, directly in the directory, by the unit's live session. -/
theorem captures_stay_in_directory {ω : Type} (b : SessionBackend ω)
    (saves : ∀ n file, (b.browse n (.saveScreenshot file)).Ordinarily) (clock : ω → Timestamp) (directory : String)
    (unit : UnitId) (w : World (Recorded ω)) :
    (∀ label, Captures b (.ofText directory) unit w
      ((onDemand b.recorded (fun x => clock x.outer) (.ofText directory) label unit).run w)) ∧
    ∀ testId testName, Captures b (.ofText directory) unit w
      ((onFailure b.recorded (fun x => clock x.outer) (.ofText directory) testId testName unit).run w) :=
  ⟨captures_onDemand saves (FilePath.lawful_ofText directory) clock,
    captures_onFailure saves (FilePath.lawful_ofText directory) clock⟩

/-- Only the first session saves screenshots. -/
def shy : SessionBackend Unit where
  log _ _ _ := ()
  create _ _ := pure ()
  browse session call :=
    match session, call with
    | 1, .saveScreenshot _ => pure ()
    | _, _ => throw (.plain .runtime "Target closed")
  defaultConfig := {}

theorem captures_stay_in_directory_shy :
    let w : World (Recorded Unit) := ⟨(SessionTable.empty.add .calling).add (.worker 2), ⟨(), []⟩⟩
    let onDemand := (onDemand shy.recorded (fun _ => default) (.ofText "reports/shots") "../../etc/passwd" .calling).run w
    let onFailure := (onFailure shy.recorded (fun _ => default) (.ofText "reports/shots") "TC1" "/" (.worker 2)).run w
    (∃ file, onDemand.1 = .ok (some file) ∧ IsPictureIn (.ofText "reports/shots") file ∧
      onDemand.2.outer.journal = [.called 1 (.saveScreenshot file)]) ∧ onFailure.1 = .ok none := by
  intro w onDemand onFailure
  have saves : ∀ n file, (shy.browse n (.saveScreenshot file)).Ordinarily := by
    intro n file
    match n with
    | 1 => exact Act.ordinarily_pure ()
    | 0 | n + 2 => exact Act.ordinarily_throw rfl
  constructor
  · obtain ⟨demanded, -⟩ := captures_stay_in_directory shy saves (fun _ => default) "reports/shots" .calling w
    obtain ⟨file, answer, picture, answers, -, journal, own, nothing⟩ := demanded "../../etc/passwd"
    have live : w.sessions.live? .calling = some 1 := by decide
    have there : answer ≠ none := by
      intro none
      rcases nothing.1 none with idle | ⟨n, fault, first, failed⟩
      · rw [live] at idle
        cases idle
      · rw [live] at first
        cases first
        cases failed
    obtain ⟨shown, rfl⟩ := Option.ne_none_iff_exists'.1 there
    rw [own shown rfl] at answers
    rw [live] at journal
    exact ⟨file, answers, picture, journal⟩
  · obtain ⟨-, failed⟩ := captures_stay_in_directory shy saves (fun _ => default) "reports/shots" (.worker 2) w
    obtain ⟨file, answer, -, answers, -, -, -, nothing⟩ := failed "TC1" "/"
    rw [nothing.2 (.inr ⟨2, _, by decide, rfl⟩)] at answers
    exact answers

end Screenshots

end KeywordSuite
