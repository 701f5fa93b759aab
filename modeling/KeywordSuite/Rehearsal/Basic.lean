import KeywordSuite.Browser.Automation
import KeywordSuite.Definition.Document
import KeywordSuite.Definition.Workbook
import KeywordSuite.Mail.Delivery
import KeywordSuite.Report.Html
import KeywordSuite.Report.Screenshots
import KeywordSuite.Suite.Surroundings

/-! # Rehearsals

A rehearsal runs without a browser or a mail server. Scripted stand-ins take their place; each call
on one is recorded as an event before it is answered or fails.
-/

namespace KeywordSuite

structure BrowserScript where
  failures : Entries String := []
  /-- Selectors that nothing on the page ever matches. -/
  deadSelectors : List String := []
  enabled : Bool := true
  checked : Bool := false
  title : String := "Example Domain"

structure EngineScript where
  failures : Entries String := []
  title : String := "Example Domain"
  url : String := "about:blank"
  visible : Bool := true
  enabled : Bool := true
  checked : Bool := false

/-- What a rehearsal remembers, and how its stand-ins behave. -/
structure Rehearsal where
  /-- Newest first. -/
  events : List Value := []
  browser : BrowserScript := {}
  engine : EngineScript := {}
  configs : List SessionConfig := []
  /-- Events do not tell sessions and units apart. -/
  anonymous : Bool := false
  document : Option SuiteDocument := none
  shelf : SheetShelf := []
  html : HtmlReport := {}
  mailFaults : Entries Fault := []
  /-- Reporters by the places of their listeners. -/
  reporters : List (Nat × MailReporter) := []
  fleet : SessionFleet := []

instance : Inhabited Rehearsal := ⟨{}⟩

abbrev Stage := Host Rehearsal

namespace Stage

def record (event : List Value) : Act Stage Unit :=
  modify fun h => { h with outer := { h.outer with events := .list event :: h.outer.events } }

def fail {α : Type} (message : String) : Act Stage α := throw (.plain .runtime message)

def failIf (failures : Entries String) (call : String) : Act Stage Unit :=
  match failures.get? call with
  | some message => fail message
  | none => return ()

def writePicture (path : String) : Act Stage Unit := do
  let file := FilePath.ofText path
  Host.makePath file.parent
  Host.writeFile file .picture

/-! ## Browser sessions -/

def create (_ : SessionId) (config : SessionConfig) : Act Stage Unit := do
  record [.text "create", .dict config.toEntries]
  failIf (← get).outer.browser.failures "create"
  modify fun h => { h with outer := { h.outer with configs := h.outer.configs ++ [config] } }

/-- What a session answers to a call that is not told to fail. -/
def reply (script : BrowserScript) : (call : SessionCall) → Act Stage call.Reply
  | .click selector | .fill selector _ => awaitMatch selector ("Timeout waiting for " ++ selector)
  | .waitForState selector state =>
    awaitMatch selector ("Timeout waiting for " ++ selector ++ " to be " ++ state)
  | .isEnabled _ => return script.enabled
  | .isChecked _ => return script.checked
  | .title => return script.title
  | .saveScreenshot path => writePicture path
  | .navigate _ | .quit => return ()
where
  awaitMatch (selector message : String) : Act Stage Unit :=
    if script.deadSelectors.contains selector then fail message else return ()

def browse (session : SessionId) (call : SessionCall) : Act Stage call.Reply := do
  let shown := if (← get).outer.anonymous then 0 else session
  record ([.text "session", .int shown, .text call.method] ++ call.arguments.map .text)
  let script := (← get).outer.browser
  failIf script.failures call.method
  reply script call

def backend (defaultConfig : SessionConfig) (closeFault : Option Fault) : SessionBackend Stage where
  log level message h := h.note level message
  create := create
  browse := browse
  defaultConfig := defaultConfig
  closeFault := closeFault

/-! ## The automation engine -/

/-- The failure that a call is told, where the word for an interruption stands for one. -/
def breakIf (failures : Entries String) (call : String) : Act Stage Unit :=
  match failures.get? call with
  | some "KeyboardInterrupt" => throw (.interrupt "")
  | some message => fail message
  | none => return ()

def engineReply (script : EngineScript) : (call : EngineCall) → Act Stage call.Reply
  | .title => return script.title
  | .url => return script.url
  | .isVisible _ => return script.visible
  | .isEnabled _ => return script.enabled
  | .isChecked _ => return script.checked
  | .screenshot path => Host.writeFile (.ofText path) .picture
  | .start | .launch .. | .newContext _ | .setTimeout _ | .setNavigationTimeout _ | .newPage
  | .goto _ | .click _ | .fill .. | .waitFor .. | .closePage | .closeContext | .closeBrowser
  | .stop => return ()

/-- The engine of a rehearsal; asking where the page is leaves no event. -/
def engine : Engine Rehearsal
  | .url => return (← get).outer.engine.url
  | call => do
    record ([.text "pw", .text call.name] ++ call.arguments)
    let script := (← get).outer.engine
    breakIf script.failures call.name
    engineReply script call

def documentPlace : Place Rehearsal (Option SuiteDocument) :=
  ⟨Rehearsal.document, fun document r => { r with document }⟩

def shelfPlace : Place Rehearsal SheetShelf := ⟨Rehearsal.shelf, fun shelf r => { r with shelf }⟩

def htmlPlace : Place Rehearsal HtmlReport := ⟨Rehearsal.html, fun html r => { r with html }⟩

def reporterPlace (index : Nat) : Place Rehearsal MailReporter where
  get r := (List.lookup index r.reporters).getD {}
  set reporter r :=
    { r with reporters := (index, reporter) :: r.reporters.filter fun entry => entry.1 ≠ index }

def mailServer : MailServer Rehearsal := fun call => do
  record ([.text "smtp", .text call.stage] ++ call.arguments)
  match (← get).outer.mailFaults.get? call.stage with
  | some fault => throw fault
  | none => return ()

def platform : Platform := ⟨"TestOS-1.0", "3.11.0"⟩

def fleetPlace : Place Rehearsal SessionFleet := ⟨Rehearsal.fleet, fun fleet r => { r with fleet }⟩

/-! ## Reports, captures and listeners -/

def report (failing : List String) (path : Option String) (call : ReportCall) :
    Act Stage (Option String) := do
  record ([.text "report", .text call.method] ++ call.arguments.map .text)
  if failing.contains call.method then fail (call.method ++ " down")
  match call with
  | .endSuite => return path
  | _ => return none

def unitValue (unit : UnitId) : Act Stage Value := do
  return if (← get).outer.anonymous then .int 0 else unit.toValue

def capture (path failure : Option String) : CaptureDevice Stage :=
  .other
    (fun label unit => do
      record [.text "artifact", .text "on_demand", .text label, ← unitValue unit]
      answer)
    (fun testId testName reason unit => do
      record [.text "artifact", .text "on_failure", .text testId, .text testName, optionText reason,
        ← unitValue unit]
      answer)
where
  answer : Act Stage (Option String) :=
    match failure with
    | some message => fail message
    | none => return path

def newsValues : SuiteNews → List Value
  | .result r => [.text r.testId, .text r.status.label]
  | .finished s => [.int s.total, .int s.passed, .int s.failed]

def listener (index : Nat) (failing : List String) : Listener Stage where
  name := "RecordingListener"
  tell news := do
    record ([.text "listener", .int index, .text news.method] ++ newsValues news)
    if failing.contains news.method then fail (news.method ++ " down")

/-! ## Surroundings -/

def secondsOf : Value → Float
  | .float x => x
  | .int n => intToFloat n
  | .bool true => 1.0
  | _ => 0.0

def outside : String → List Value → Act Stage Value
  | "keyword", [_, testId, name] => do
    record [.text "keyword", testId, name]
    return .null
  | "advance", [seconds] => do
    modify (Host.advance (secondsOf seconds))
    return .null
  | _, _ => return .null

def sleep (seconds : Float) : Act Stage Unit := do
  record [.text "sleep", .text (floatText seconds)]
  Host.sleep seconds

/-- The surroundings of a rehearsal, without reports, listeners and definitions. -/
def surroundings (backend : SessionBackend Stage) : Surroundings Stage where
  toSessionBackend := backend
  now := Host.now
  localNow := Host.localNow
  stopwatch h := h.elapsed
  sleep := sleep
  source := ⟨return [], fun _ => return [], fun _ => return []⟩
  report := none
  capture := .absent
  listeners := []
  outside := outside

end Stage

end KeywordSuite
