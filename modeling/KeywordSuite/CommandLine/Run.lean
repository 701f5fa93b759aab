import KeywordSuite.Browser.Automation
import KeywordSuite.CommandLine.Overrides
import KeywordSuite.CommandLine.Screen
import KeywordSuite.Definition.Document
import KeywordSuite.Definition.Workbook
import KeywordSuite.Keyword.Browser
import KeywordSuite.Log.Setup
import KeywordSuite.Mail.Delivery
import KeywordSuite.Report.Html
import KeywordSuite.Settings.Sources
import KeywordSuite.Suite.Run

/-! # A run from the command line

A run reads its settings, sets the log up, puts its parts together and runs the suite. How it ended
is an exit status beside what the screen shows.
-/

namespace KeywordSuite

/-- What a run works with, and where it keeps the state of its parts. -/
structure Equipment (ε : Type) where
  engine : Engine ε
  mailServer : MailServer ε
  platform : Platform
  sleep : Float → Act (Host ε) Unit
  document : Place ε (Option SuiteDocument)
  shelf : Place ε SheetShelf
  html : Place ε HtmlReport
  reporter : Place ε MailReporter
  fleet : Place ε SessionFleet

inductive ExitStatus
  | passed
  | failed
  | startupError
  | interrupted
  deriving DecidableEq, Repr

def ExitStatus.number : ExitStatus → Nat
  | .passed => 0
  | .failed => 1
  | .startupError => 2
  | .interrupted => 130

structure Conclusion where
  status : ExitStatus
  shown : List Notice

namespace Equipment

variable {ε : Type} (e : Equipment ε)

/-- The definitions of a suite file if the command line names one, otherwise of the workbooks. -/
def source (s : Settings) (o : CommandOptions) : DefinitionSource (Host ε) :=
  match o.jsonSuite with
  | some path => SuiteDocument.source path e.document
  | none => Workbook.source e.shelf (.ofSettings s)

def surroundings (s : Settings) (o : CommandOptions) : Surroundings (Host ε) where
  toSessionBackend := SessionFleet.backend e.engine e.fleet s.sessionConfig
  now := Host.now
  localNow := Host.localNow
  stopwatch h := h.elapsed
  sleep := e.sleep
  source := e.source s o
  report := some (HtmlReport.receive s e.platform e.html)
  capture := .screenshots s.screenshotsDir
  listeners := [MailReporter.listener s e.mailServer e.reporter]
  outside _ _ := return .null

end Equipment

namespace CommandOptions

variable {ε : Type}

def setUpLog (s : Settings) : Act (Host ε) Unit := do
  let setup ← Act.ofExcept (LogSetup.new s.logLevel.label s.logFormat s.logFile s.sanitizeLogs)
  LogSetup.openFiles setup.handlers
  let first := LogSetup.firstRecord s.logLevel.label s.logFormat s.logFile s.sanitizeLogs
  let _ ← setup.write first
  Host.logging first.level "KeyRunner logging initialized"

def registry (s : Settings) : Act (Host ε) KeywordRegistry := do
  let done ← Act.ofExcept (KeywordRegistry.empty.register (BrowserKeyword.provider s))
  modify (Host.noteAll done.lines)
  return done.registry

def settings (o : CommandOptions) (environment : Entries String) : Act (Host ε) Settings := do
  Act.ofExcept (o.override (← Settings.forRun environment))

/-- How a run ends whose suite ended as given. -/
def conclude (b : SessionBackend (Host ε)) (outcome : SuiteOutcome) :
    Act (World (Host ε)) Conclusion :=
  match outcome.summary with
  | .ok summary => do
    let shown ← Act.ofExcept (Notice.summary summary outcome.reportPath)
    return ⟨if summary.allPassed then .passed else .failed, shown⟩
  | .error (.suite (.definition ..) message ..) =>
    return ⟨.startupError, [.unreadableDefinitions message]⟩
  | .error (.suite _ message ..) => return ⟨.startupError, [.fatal message]⟩
  | .error (.interrupt _) => do
    b.closeAll
    return ⟨.interrupted, [.interrupted]⟩
  | .error fault => throw fault

def runSuite (e : Equipment ε) (schedule : List Nat) (s : Settings) (registry : KeywordRegistry)
    (o : CommandOptions) : Act (World (Host ε)) Conclusion := do
  let surroundings := e.surroundings s o
  let plan : SuitePlan := ⟨registry, s.resultMetadataKeys, surroundings.listeners.map (·.name),
    s.parallelWorkers.toNat⟩
  let outcome ← Act.make fun w =>
    let (outcome, w) := surroundings.runSuite plan schedule w
    (.ok outcome, w)
  let ended ← conclude surroundings.toSessionBackend outcome
  return { ended with shown := .opening s :: ended.shown }

def run (e : Equipment ε) (schedule : List Nat) (environment : Entries String) (o : CommandOptions) :
    Act (World (Host ε)) Conclusion := do
  if o.version then return ⟨.passed, Notice.versions⟩
  match ← (World.zoom (o.settings environment)).outcome with
  | .error fault =>
    if fault.isValue then return ⟨.startupError, [.invalidConfiguration fault]⟩ else throw fault
  | .ok s =>
    World.zoom (setUpLog s)
    World.zoom s.makeDirectories
    let keywords ← World.zoom (registry s)
    if o.listKeywords then return ⟨.passed, [.keywords keywords]⟩
    o.runSuite e schedule s keywords

end CommandOptions

end KeywordSuite
