import KeywordSuite.CommandLine.Run
import KeywordSuite.Proofs.Case.Completion
import KeywordSuite.Proofs.Host.Files
import KeywordSuite.Proofs.Json.Reader
import KeywordSuite.Proofs.Keyword.Manners
import KeywordSuite.Proofs.Keyword.Registry

/-!
# How a run from the command line starts

A run starts once its settings are read, the directories for its output are made, and its log is
open. Settings that are refused end it with the status for that; a directory or a log file that
cannot be made ends it with the fault of the file, which nothing on the way takes up.
-/

namespace KeywordSuite

theorem faulty_filterMapM {α β : Type} {P : Fault → Prop} {f : α → Except Fault (Option β)}
    (h : ∀ a, Faulty P (f a)) : ∀ l : List α, Faulty P (l.filterMapM f)
  | [] => faulty_ok []
  | a :: l => by
    rw [List.filterMapM_cons]
    refine (h a).bind fun found => ?_
    cases found with
    | none => exact faulty_filterMapM h l
    | some b => exact (faulty_filterMapM h l).bind fun others => faulty_ok _

/-! ## Settings -/

namespace Settings

/-- The text of the environment file, where there is one. -/
def environmentText (files : Files) : Except Fault (Option String) :=
  match files.find environmentFile with
  | .ok (.file ..) => some <$> files.readText environmentFile
  | _ => .ok none

/-- The settings under an environment that the text of a file is added to. -/
def loadBeside (environment : Entries String) (file : Option String) : Except Fault Settings :=
  load [] (match file with
    | some text => EnvironmentFile.load environment text
    | none => environment) file

/-- The settings that the environment and its file give. -/
def given (environment : Entries String) (files : Files) : Except Fault Settings := do
  loadBeside environment (← environmentText files)

variable {ε : Type}

/-- Reading the environment file changes nothing. -/
theorem run_forRun (environment : Entries String) (h : Host ε) :
    (forRun environment).run h = (do
      let s ← Act.ofExcept (given environment h.files)
      s.makeDirectories
      return s : Act (Host ε) Settings).run h := by
  have reads : (forRun environment).run h = (do
      let file ← Act.ofExcept (environmentText h.files)
      let s ← Act.ofExcept (loadBeside environment file)
      s.makeDirectories
      return s : Act (Host ε) Settings).run h := by
    unfold forRun environmentText
    rw [Act.run_bind, Act.run_get]
    dsimp only
    cases found : h.files.find environmentFile with
    | error fault => rfl
    | ok node =>
      cases node with
      | directory made => rfl
      | file content modified =>
        dsimp only
        cases h.files.readText environmentFile with
        | error fault => rfl
        | ok text =>
          have same : some <$> (Act.ofExcept (.ok text) : Act (Host ε) String) = Act.ofExcept (.ok (some text)) := rfl
          rw [same]
          rfl
  rw [reads]
  unfold given
  cases environmentText h.files with
  | error fault => rfl
  | ok file => rfl

theorem faulty_decodeField (source name text : String) : Faulty (·.isValue = true) (decodeField source name text) := by
  unfold decodeField
  split
  · cases Json.read text with
    | ok v => exact faulty_ok v
    | error fault => exact faulty_error rfl
  · exact faulty_ok _

theorem faulty_fromBindings (source : String) (bindings : Entries (Option String)) :
    Faulty (·.isValue = true) (fromBindings source bindings) := by
  unfold fromBindings
  refine faulty_filterMapM (fun name => ?_) fieldNames
  split
  · refine (faulty_decodeField _ _ _).bind fun v => ?_
    cases v <;> exact faulty_ok _
  · exact faulty_ok _

theorem faulty_load (given : Entries Value) (environment : Entries String) (file : Option String) :
    Faulty (·.isValue = true) (load given environment file) := by
  unfold load
  refine (faulty_fromBindings _ _).bind fun outer => Faulty.bind ?_ fun inner => ?_
  · unfold fromFile
    cases file with
    | none => exact faulty_ok _
    | some text => exact faulty_fromBindings _ _
  · cases read (mergeEntries (mergeEntries inner outer) (foldNames given)) with
    | valid s => exact faulty_ok s
    | wrong issues => exact faulty_error rfl

theorem faulty_decodeUtf8 (bytes : List Nat) : Faulty (·.isValue = true) (Text.decodeUtf8 bytes) := by
  unfold Text.decodeUtf8
  split
  · exact faulty_ok _
  · exact faulty_error rfl

/-- A file that is there is read, unless it is no text. -/
theorem faulty_environmentText (files : Files) : Faulty (·.isValue = true) (environmentText files) := by
  unfold environmentText
  split
  · rename_i content modified found
    have reads : Faulty (·.isValue = true) (files.readText environmentFile) := by
      unfold Files.readText
      rw [found]
      cases content with
      | text s => exact faulty_ok _
      | bytes bs => exact (faulty_decodeUtf8 bs).bind fun s => faulty_ok _
      | workbook | archive | picture => exact faulty_error rfl
    exact reads.bind fun text => faulty_ok (some text)
  · exact faulty_ok none

theorem faulty_given (environment : Entries String) (files : Files) :
    Faulty (·.isValue = true) (given environment files) :=
  (faulty_environmentText files).bind fun _ => faulty_load _ _ _

theorem raises_makeDirectories (s : Settings) : (s.makeDirectories (ε := ε)).Raises Fault.IsFile :=
  (Host.raises_makePath _).bind fun _ => Host.raises_makePath _

end Settings

/-! ## Keywords -/

namespace BrowserKeyword

theorem provider_works (s : Settings) : (provider s).Works := by
  have named : ["OPEN_BROWSER", "CLOSE_BROWSER", "NAVIGATE_TO", "CLICK", "TYPE", "VERIFY_ELEMENT", "VERIFY_TITLE",
      "WAIT", "TAKE_SCREENSHOT"].all (fun name => !Text.isBlankText name) = true := by decide +kernel
  refine ⟨rfl, fun d member => ?_⟩
  simp only [provider, List.mem_cons, List.not_mem_nil, or_false] at member
  rcases member with rfl | rfl | rfl | rfl | rfl | rfl | rfl | rfl | rfl <;>
    exact ⟨by simpa using List.all_eq_true.mp named _ (by simp), rfl⟩

/-- The keywords of the browser are registered, and every keyword that is found is one of them. -/
theorem exists_registration (s : Settings) : ∃ done, KeywordRegistry.empty.register (provider s) = .ok done ∧
    ∀ name e, done.registry.resolve? name = some e → IsBuiltIn e.body := by
  rcases (provider s).entries_cases with ⟨-, es, entries, shows⟩ | ⟨fails, -⟩
  · refine ⟨_, by unfold KeywordRegistry.register; rw [entries]; rfl, fun name e found => ?_⟩
    have files := KeywordRegistry.files_empty.addAll shows
    obtain ⟨n, -, held⟩ := Option.bind_eq_some_iff.1 found
    obtain ⟨x, last, own⟩ := (files.get_iff _ e).1 held
    obtain ⟨d, there, rfl⟩ := List.mem_map.1 (of_lastUnder last).1
    exact ⟨s, d, there, own.body⟩
  · exact absurd (provider_works s) fails

end BrowserKeyword

/-! ## Ready to run -/

theorem LogLevel.lookup_label (level : LogLevel) : levelNumbers.lookup (Text.upper level.label) = some level.number := by
  cases level <;> decide +kernel

/-- The log that some settings ask for. -/
theorem Settings.logSetup_eq (s : Settings) : LogSetup.new s.logLevel.label s.logFormat s.logFile s.sanitizeLogs =
    .ok ⟨s.logLevel.number, LogSetup.consoleHandler s.logLevel.number (s.logFormat = "json") s.sanitizeLogs ::
      (match s.logFile with
        | some path =>
          if path = "" then [] else [LogSetup.fileHandler path s.logLevel.number (s.logFormat = "json") s.sanitizeLogs]
        | none => [])⟩ := by
  have known : levelNumber s.logLevel.label = .ok s.logLevel.number := by
    unfold levelNumber
    dsimp only
    rw [s.logLevel.lookup_label]
  unfold LogSetup.new
  rw [known]
  rfl

namespace CommandOptions

theorem faulty_override (o : CommandOptions) (s : Settings) : Faulty (·.isValue = true) (o.override s) := by
  unfold override
  split
  · exact faulty_error rfl
  · exact faulty_ok _

variable {ε : Type} (environment : Entries String) (o : CommandOptions) (h : Host ε)

section

variable {s : Settings} {setup : LogSetup} {h h' : Host ε} {fault : Fault}
  (asked : LogSetup.new s.logLevel.label s.logFormat s.logFile s.sanitizeLogs = .ok setup)
include asked

theorem setUpLog_barred (ended : ((LogSetup.openFiles setup.handlers).run h).1 = .error fault) :
    ((setUpLog s).run h).1 = .error fault := by
  unfold setUpLog
  rw [asked, Act.run_bind_of_ok (Act.run_ofExcept _ _)]
  exact Act.run_bind_of_error ended

/-- The log of a run is there as soon as its files are open. -/
theorem setUpLog_opened (opened : (LogSetup.openFiles setup.handlers).run h = (.ok (), h')) :
    ∃ h'', (setUpLog s).run h = (.ok (), h'') := by
  obtain ⟨others, h₂, written⟩ := LogSetup.exists_write opened
    (LogSetup.firstRecord s.logLevel.label s.logFormat s.logFile s.sanitizeLogs)
  unfold setUpLog
  rw [asked, Act.run_bind_of_ok (Act.run_ofExcept _ _), Act.run_bind_of_ok opened]
  exact ⟨_, Act.run_bind_of_ok written⟩

end

/-- A log without a file takes one line and changes nothing else. -/
theorem setUpLog_of_plain {s : Settings} (plain : s.logFile = none) (h : Host ε) :
    (setUpLog s).run h = (.ok (), h.note .info "KeyRunner logging initialized") := by
  have console : ∀ handler ∈ [LogSetup.consoleHandler s.logLevel.number (s.logFormat = "json") s.sanitizeLogs],
      ∀ path, handler.target ≠ .file path := by
    intro handler member path
    obtain rfl := List.mem_singleton.mp member
    unfold LogSetup.consoleHandler
    split <;> exact fun never => by cases never
  obtain ⟨setup, asked, handlers⟩ : ∃ setup, LogSetup.new s.logLevel.label s.logFormat s.logFile s.sanitizeLogs = .ok setup ∧
      ∀ handler ∈ setup.handlers, ∀ path, handler.target ≠ .file path := by
    refine ⟨_, s.logSetup_eq, ?_⟩
    rw [plain]
    exact console
  obtain ⟨others, written⟩ := LogSetup.exists_write_of_plain handlers
    (LogSetup.firstRecord s.logLevel.label s.logFormat s.logFile s.sanitizeLogs) h
  unfold setUpLog
  rw [asked, Act.run_bind_of_ok (Act.run_ofExcept _ _), Act.run_bind_of_ok (LogSetup.run_openFiles_of_plain handlers)]
  exact Act.run_bind_of_ok written

/-- Settings that a run may go on with, and the host once their first directories are made. -/
def Configured (s : Settings) (h₁ : Host ε) : Prop :=
  ∃ base, Settings.given environment h.files = .ok base ∧ base.makeDirectories.run h = (.ok (), h₁) ∧ o.override base = .ok s

/-- What is wrong with the settings that a run is given. -/
inductive Refused : Fault → Prop
  | settings {fault : Fault} : Settings.given environment h.files = .error fault → Refused fault
  | directoryName {base : Settings} {fault : Fault} : Settings.given environment h.files = .ok base →
      (base.makeDirectories.run h).1 = .error fault → fault.isValue = true → Refused fault
  | options {base : Settings} {h₁ : Host ε} {fault : Fault} : Settings.given environment h.files = .ok base →
      base.makeDirectories.run h = (.ok (), h₁) → o.override base = .error fault → Refused fault

/-- What a run cannot make: a directory of its settings, its log file, or a directory of its command line. -/
inductive Barred : Fault → Prop
  | directories {base : Settings} {fault : Fault} : Settings.given environment h.files = .ok base →
      (base.makeDirectories.run h).1 = .error fault → fault.isValue = false → Barred fault
  | logFile {s : Settings} {h₁ : Host ε} {setup : LogSetup} {fault : Fault} : Configured environment o h s h₁ →
      LogSetup.new s.logLevel.label s.logFormat s.logFile s.sanitizeLogs = .ok setup →
      ((LogSetup.openFiles setup.handlers).run h₁).1 = .error fault → Barred fault
  | chosenDirectories {s : Settings} {h₁ h₂ : Host ε} {fault : Fault} : Configured environment o h s h₁ →
      (setUpLog s).run h₁ = (.ok (), h₂) → (s.makeDirectories.run h₂).1 = .error fault → Barred fault

/-- Settings and keywords that a run starts with, and the host it starts on. -/
structure Ready (s : Settings) (keywords : KeywordRegistry) (h' : Host ε) : Prop where
  prepared : ∃ h₁ h₂ h₃, Configured environment o h s h₁ ∧ (setUpLog s).run h₁ = (.ok (), h₂) ∧
    s.makeDirectories.run h₂ = (.ok (), h₃) ∧ (registry s).run h₃ = (.ok keywords, h')
  builtIn : ∀ name e, keywords.resolve? name = some e → BrowserKeyword.IsBuiltIn e.body

variable {environment o h}

theorem Refused.isValue {fault : Fault} (refused : Refused environment o h fault) : fault.isValue = true := by
  cases refused with
  | settings ended => exact Settings.faulty_given _ _ _ ended
  | directoryName _ _ value => exact value
  | options _ _ ended => exact o.faulty_override _ _ ended

theorem Barred.isFile {fault : Fault} (barred : Barred environment o h fault) : fault.IsFile := by
  cases barred with
  | directories _ ended _ => exact Settings.raises_makeDirectories _ _ _ ended
  | logFile _ _ ended => exact LogSetup.raises_openFiles _ _ _ ended
  | chosenDirectories _ _ ended => exact Settings.raises_makeDirectories _ _ _ ended

theorem Configured.unique {s s' : Settings} {h₁ h₁' : Host ε} (first : Configured environment o h s h₁)
    (second : Configured environment o h s' h₁') : s = s' ∧ h₁ = h₁' := by
  obtain ⟨base, read, made, chosen⟩ := first
  obtain ⟨base', read', made', chosen'⟩ := second
  cases read.symm.trans read'
  cases made.symm.trans made'
  cases chosen.symm.trans chosen'
  exact ⟨rfl, rfl⟩

section

variable {s s' : Settings} {keywords keywords' : KeywordRegistry} {h₁ h₂ : Host ε}

theorem Ready.unique (first : Ready environment o h s keywords h₁) (second : Ready environment o h s' keywords' h₂) :
    s = s' ∧ keywords = keywords' ∧ h₁ = h₂ := by
  obtain ⟨⟨_, _, _, configured, logged, made, registered⟩, -⟩ := first
  obtain ⟨⟨_, _, _, configured', logged', made', registered'⟩, -⟩ := second
  obtain ⟨rfl, rfl⟩ := configured.unique configured'
  cases logged.symm.trans logged'
  cases made.symm.trans made'
  cases registered.symm.trans registered'
  exact ⟨rfl, rfl, rfl⟩

theorem Ready.not_barred (ready : Ready environment o h s keywords h₁) (fault : Fault) :
    ¬ Barred environment o h fault := by
  obtain ⟨⟨_, _, _, configured, logged, made, -⟩, -⟩ := ready
  intro barred
  cases barred with
  | directories read ended _ =>
    obtain ⟨base, read', made', -⟩ := configured
    cases read.symm.trans read'
    rw [made'] at ended
    cases ended
  | logFile configured' asked ended =>
    obtain ⟨rfl, rfl⟩ := configured.unique configured'
    have failed := setUpLog_barred asked ended
    rw [logged] at failed
    cases failed
  | chosenDirectories configured' logged' ended =>
    obtain ⟨rfl, rfl⟩ := configured.unique configured'
    cases logged.symm.trans logged'
    rw [made] at ended
    cases ended

end

theorem exists_start (environment : Entries String) (o : CommandOptions) (h : Host ε) :
    (∃ fault, Refused environment o h fault) ∨ (∃ fault, Barred environment o h fault) ∨
      ∃ s keywords h', Ready environment o h s keywords h' := by
  cases read : Settings.given environment h.files with
  | error fault => exact .inl ⟨fault, .settings read⟩
  | ok base =>
  rcases made : base.makeDirectories.run h with ⟨_ | _, h₁⟩
  · rename_i fault
    cases value : fault.isValue
    · exact .inr (.inl ⟨fault, .directories read (by rw [made]) value⟩)
    · exact .inl ⟨fault, .directoryName read (by rw [made]) value⟩
  cases chosen : o.override base with
  | error fault => exact .inl ⟨fault, .options read made chosen⟩
  | ok s =>
  have configured : Configured environment o h s h₁ := ⟨base, read, made, chosen⟩
  obtain ⟨setup, asked⟩ : ∃ setup, LogSetup.new s.logLevel.label s.logFormat s.logFile s.sanitizeLogs = .ok setup :=
    ⟨_, s.logSetup_eq⟩
  rcases opened : (LogSetup.openFiles setup.handlers).run h₁ with ⟨fault | _, _⟩
  · exact .inr (.inl ⟨fault, .logFile configured asked (by rw [opened])⟩)
  obtain ⟨h₂, logged⟩ := setUpLog_opened asked opened
  rcases made' : s.makeDirectories.run h₂ with ⟨fault | _, h₃⟩
  · exact .inr (.inl ⟨fault, .chosenDirectories configured logged (by rw [made'])⟩)
  obtain ⟨done, registered, builtIn⟩ := BrowserKeyword.exists_registration s
  have keywords : (registry s).run h₃ = (.ok done.registry, Host.noteAll done.lines h₃) := by
    unfold registry
    rw [registered]
    rfl
  exact .inr (.inr ⟨s, done.registry, _, ⟨⟨h₁, h₂, h₃, configured, logged, made', keywords⟩, builtIn⟩⟩)

theorem run_settings (environment : Entries String) (o : CommandOptions) (h : Host ε) :
    (o.settings environment).run h = match Settings.given environment h.files with
      | .error fault => (.error fault, h)
      | .ok base => match base.makeDirectories.run h with
        | (.error fault, h₁) => (.error fault, h₁)
        | (.ok _, h₁) => (o.override base, h₁) := by
  unfold settings
  rw [Act.run_bind, Settings.run_forRun, Act.run_bind, Act.run_ofExcept]
  cases Settings.given environment h.files with
  | error fault => rfl
  | ok base =>
    dsimp only
    rw [Act.run_bind]
    rcases base.makeDirectories.run h with ⟨_ | _, h₁⟩
    · rfl
    · exact Act.run_ofExcept _ _

variable (e : Equipment ε) (schedule : List Nat) {w : World (Host ε)}

/-- What a run does with settings that are accepted. -/
def goOn (s : Settings) : Act (World (Host ε)) Conclusion := do
  World.zoom (setUpLog s)
  World.zoom s.makeDirectories
  let keywords ← World.zoom (registry s)
  if o.listKeywords then return ⟨.passed, [.keywords keywords]⟩
  o.runSuite e schedule s keywords

theorem run_eq (started : o.version = false) :
    (o.run e schedule environment).run w = match (o.settings environment).run w.outer with
      | (.error fault, h₁) =>
        (if fault.isValue then .ok ⟨.startupError, [.invalidConfiguration fault]⟩ else .error fault, { w with outer := h₁ })
      | (.ok s, h₁) => (o.goOn e schedule s).run { w with outer := h₁ } := by
  unfold run
  rw [started, if_neg Bool.false_ne_true, Act.run_bind, Act.run_outcome, World.run_zoom]
  rcases (o.settings environment).run w.outer with ⟨fault | s, h₁⟩
  · dsimp only
    cases fault.isValue <;> rfl
  · rfl

theorem run_refused (started : o.version = false) {fault : Fault} (refused : Refused environment o w.outer fault) :
    ((o.run e schedule environment).run w).1 = .ok ⟨.startupError, [.invalidConfiguration fault]⟩ := by
  have value := refused.isValue
  rw [run_eq e schedule started, run_settings]
  cases refused with
  | settings read =>
    rw [read]
    simp [value]
  | @directoryName base _ read ended _ =>
    rw [read]
    dsimp only
    rcases made : base.makeDirectories.run w.outer with ⟨other | _, h₁⟩ <;> rw [made] at ended <;> cases ended
    simp [value]
  | options read made ended =>
    rw [read]
    dsimp only
    rw [made]
    dsimp only
    rw [ended]
    simp [value]

theorem run_settings_of_configured {s : Settings} {h₁ : Host ε} (configured : Configured environment o h s h₁) :
    (o.settings environment).run h = (.ok s, h₁) := by
  obtain ⟨base, read, made, chosen⟩ := configured
  rw [run_settings, read]
  dsimp only
  rw [made]
  dsimp only
  rw [chosen]

theorem run_barred (started : o.version = false) {fault : Fault} (barred : Barred environment o w.outer fault) :
    ((o.run e schedule environment).run w).1 = .error fault := by
  rw [run_eq e schedule started]
  cases barred with
  | @directories base _ read ended value =>
    rw [run_settings, read]
    dsimp only
    rcases made : base.makeDirectories.run w.outer with ⟨other | _, h₁⟩ <;> rw [made] at ended <;> cases ended
    simp [value]
  | logFile configured asked ended =>
    rw [run_settings_of_configured configured]
    dsimp only
    unfold goOn
    exact Act.run_bind_of_error (World.run_zoom_of_error { w with outer := _ } (setUpLog_barred asked ended))
  | chosenDirectories configured logged ended =>
    rw [run_settings_of_configured configured]
    dsimp only
    unfold goOn
    rw [Act.run_bind_of_ok (World.run_zoom_of_ok { w with outer := _ } logged)]
    exact Act.run_bind_of_error (World.run_zoom_of_error { w with outer := _ } ended)

theorem run_ready (started : o.version = false) {s : Settings} {keywords : KeywordRegistry} {h' : Host ε}
    (ready : Ready environment o w.outer s keywords h') :
    (o.run e schedule environment).run w =
      if o.listKeywords then (.ok ⟨.passed, [.keywords keywords]⟩, { w with outer := h' })
      else (o.runSuite e schedule s keywords).run { w with outer := h' } := by
  obtain ⟨⟨h₁, h₂, h₃, configured, logged, made, registered⟩, -⟩ := ready
  rw [run_eq e schedule started, run_settings_of_configured configured]
  dsimp only
  unfold goOn
  rw [Act.run_bind_of_ok (World.run_zoom_of_ok { w with outer := _ } logged), Act.run_bind_of_ok (World.run_zoom_of_ok { w with outer := _ } made),
    Act.run_bind_of_ok (World.run_zoom_of_ok { w with outer := _ } registered)]
  cases o.listKeywords with
  | true => rfl
  | false => rfl

end CommandOptions

/-! ## A directory that is a file -/

/-- A working directory with one file in it. -/
def Files.holding (name : String) : Files :=
  ⟨["work"], [(["work"], .directory 0.0), (["work", name], .file (.text "") 0.0)]⟩

def Host.holding (name : String) : Host Unit := { Host.start default ["work"] () with files := .holding name }

/-- Parts that do nothing. -/
def Equipment.idle : Equipment Unit where
  engine _ := throw (.plain .runtime "")
  mailServer _ := pure ()
  platform := ⟨"", ""⟩
  sleep _ := pure ()
  document := ⟨fun _ => none, fun _ u => u⟩
  shelf := ⟨fun _ => [], fun _ u => u⟩
  html := ⟨fun _ => {}, fun _ u => u⟩
  reporter := ⟨fun _ => {}, fun _ u => u⟩
  fleet := ⟨fun _ => [], fun _ u => u⟩

section

def suiteFile : FilePath := .ofText "suite.json"

def reportsInSuiteFile : Entries String := [("KEYRUNNER_REPORTS_DIR", "suite.json")]

theorem locate_suiteFile : (Files.holding "suite.json").locate suiteFile = .ok ["work", "suite.json"] := by
  rw [Files.locate_eq (by decide) (by decide)]
  rfl

theorem environmentText_holding : Settings.environmentText (.holding "suite.json") = .ok none := by
  have located : (Files.holding "suite.json").locate Settings.environmentFile = .ok ["work", ".env"] := by
    rw [Files.locate_eq (by decide) (by decide)]
    rfl
  unfold Settings.environmentText Files.find
  rw [located]
  rfl

theorem exists_given_suiteFile : ∃ base, Settings.given reportsInSuiteFile (.holding "suite.json") = .ok base ∧
    base.reportsDir = suiteFile := by
  have given : Settings.given reportsInSuiteFile (.holding "suite.json") = Settings.load [] reportsInSuiteFile none := by
    unfold Settings.given
    rw [environmentText_holding]
    rfl
  have folder : (Settings.load [] reportsInSuiteFile none).toOption.map (·.reportsDir) = some suiteFile := by decide +kernel
  rw [given]
  cases read : Settings.load [] reportsInSuiteFile none with
  | error fault =>
    rw [read] at folder
    cases folder
  | ok base =>
    rw [read] at folder
    exact ⟨base, rfl, Option.some.inj folder⟩

theorem makePath_suiteFile :
    ((Host.makePath suiteFile).run (Host.holding "suite.json")).1 = .error (FileFault.exists.toFault suiteFile) := by
  have whole : suiteFile = ⟨"", ["suite.json"]⟩ := by decide +kernel
  have made : ∀ time, (Files.holding "suite.json").makeDirectory time suiteFile = .error .exists := by
    intro time
    unfold Files.makeDirectory
    rw [locate_suiteFile]
    rfl
  have file : (Files.holding "suite.json").isDirectory suiteFile = false := by
    unfold Files.isDirectory Files.find
    rw [locate_suiteFile]
    rfl
  unfold Host.makePath
  rw [Act.run_bind, Act.run_get]
  dsimp only
  rw [Host.run_onFiles]
  unfold Files.makePath
  rw [whole] at made file ⊢
  simp only [Host.holding, Files.ensureDirectories, Files.ensureDirectory, List.reverse_cons, List.reverse_nil,
    List.nil_append, made, file]
  rfl

theorem barred_suiteFile (o : CommandOptions) :
    CommandOptions.Barred reportsInSuiteFile o (Host.holding "suite.json") (FileFault.exists.toFault suiteFile) := by
  obtain ⟨base, given, folder⟩ := exists_given_suiteFile
  refine .directories given ?_ rfl
  unfold Settings.makeDirectories
  rw [folder]
  exact Act.run_bind_of_error makePath_suiteFile

end

namespace CommandOptions

variable {ε : Type} (e : Equipment ε) (schedule : List Nat)

end CommandOptions

end KeywordSuite
