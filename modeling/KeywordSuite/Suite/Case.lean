import KeywordSuite.Keyword.Dispatch

/-! # Running a test case

A test case loads its input data and keywords, dispatches one keyword after another in a fresh
context, and ends in one result. Every fault on the way becomes a reason of its failure, and
whatever happens the context is cleaned up and the unit's session is reset.
-/

namespace KeywordSuite

structure SuitePlan where
  registry : KeywordRegistry
  /-- Scratch keys that are copied into each result. -/
  metadataKeys : List String
  /-- The names of the listeners, for the log. -/
  listeners : List String
  workers : Nat

/-- The context of a test case and the records of its dispatches so far. -/
structure CaseState where
  context : Context
  executions : List KeywordExecution

abbrev CaseProcedure (α : Type) := ExceptT Fault (StateT CaseState (Program SharedOp.Reply)) α

namespace CaseProcedure

variable {α : Type}

def make (f : CaseState → Program SharedOp.Reply (Except Fault α × CaseState)) : CaseProcedure α :=
  ExceptT.mk f

def run (p : CaseProcedure α) (s : CaseState) : Program SharedOp.Reply (Except Fault α × CaseState) :=
  StateT.run (ExceptT.run p) s

def onContext (p : ContextProcedure α) : CaseProcedure α :=
  make fun s => do
    let (r, c) ← p.run s.context
    return (r, { s with context := c })

def shared (p : SharedProcedure α) : CaseProcedure α := onContext (ContextProcedure.shared p)

def perform (op : SharedOp) : CaseProcedure op.Reply := shared (SharedProcedure.perform op)

def log (level : LogLevel) (message : String) : CaseProcedure Unit := perform (.log level message)

/-- The outcome of a procedure, unless the user interrupted it. -/
def attempt (p : CaseProcedure α) : CaseProcedure (Except Fault α) :=
  make fun s => do
    let (r, s) ← p.run s
    match r with
    | .ok a => return (.ok (.ok a), s)
    | .error fault => return (if fault.isInterrupt then .error fault else .ok (.error fault), s)

/-- Does `last` after a procedure, whatever its outcome; a fault of `last` is the one that counts. -/
def andFinally (p : CaseProcedure α) (last : CaseProcedure Unit) : CaseProcedure α :=
  make fun s => do
    let (r, s) ← p.run s
    let (r', s) ← last.run s
    match r' with
    | .ok () => return (r, s)
    | .error fault => return (.error fault, s)

def ofExcept : Except Fault α → CaseProcedure α
  | .ok a => pure a
  | .error fault => throw fault

def fail (reason : String) : CaseProcedure Unit := onContext (ContextProcedure.fail reason)

end CaseProcedure

/-- Tells the report; a fault of it is only logged. -/
def tellReport (call : ReportCall) : SharedProcedure (Option String) := do
  match ← (SharedProcedure.perform (.report call)).attempt with
  | .ok answer => return answer
  | .error fault =>
    SharedProcedure.log .error ("Report sink call " ++ call.method ++ " failed: " ++ fault.message)
    return none

/-- Informs listeners from a number on; a fault of one is only logged. -/
def informAll (news : SuiteNews) : Nat → List String → SharedProcedure Unit
  | _, [] => return ()
  | n, name :: rest => do
    if let .error fault ← (SharedProcedure.perform (.inform n news)).attempt then
      SharedProcedure.log .error
        ("Result listener " ++ name ++ "." ++ news.method ++ " failed: " ++ fault.message)
    informAll news (n + 1) rest

namespace CaseDescriptor

variable (d : CaseDescriptor)

def eventText (event : String) : String :=
  caseEventLine event (if d.testName = "" then d.testId else caseLabel d.testId d.testName)

/-- The text of an entry of a keyword sequence, if it is not blank. -/
def keywordText : Value → Except Fault (Option String)
  | .null => .ok none
  | v => do
    let text := Text.strip (← v.textOrFault)
    return if text = "" then none else some text

def reportExecution (e : KeywordExecution) : SharedProcedure Unit := do
  match e.status with
  | .passed => return ()
  | .softFailed =>
    let _ ← tellReport (.log .warning d.testId d.testName (e.reason.getD ""))
  | .failed =>
    let _ ← tellReport (.log .failed d.testId d.testName (e.reason.getD ""))

/-- Dispatches keywords in order until one fails and the test case has failed. -/
def runKeywords (registry : KeywordRegistry) : List Value → CaseProcedure Unit
  | [] => return ()
  | v :: rest => do
    match ← CaseProcedure.ofExcept (keywordText v) with
    | none => runKeywords registry rest
    | some keyword =>
      let _ ← CaseProcedure.shared
        (tellReport (.log .info d.testId d.testName ("Executing keyword: " ++ keyword)))
      let e ← CaseProcedure.onContext (registry.dispatch (some keyword))
      modify fun s => { s with executions := s.executions ++ [e] }
      CaseProcedure.shared (d.reportExecution e)
      if !e.succeeded && !(← get).context.passed then
        CaseProcedure.log .error ("Stopping test execution due to keyword failure: " ++ keyword)
      else runKeywords registry rest

def execute (registry : KeywordRegistry) : CaseProcedure Unit := do
  let data ← CaseProcedure.perform (.loadInput d.testId)
  modify fun s => { s with context := s.context.setInput data }
  match ← CaseProcedure.perform (.loadKeywords d.testId) with
  | [] => CaseProcedure.fail ("No keywords found for test ID: " ++ d.testId)
  | keywords => d.runKeywords registry keywords

/-- The metadata of a context: the texts of some scratch keys that are not empty. -/
def collectMetadata (c : Context) : List String → Entries String → Except Fault (Entries String)
  | [], found => .ok found
  | key :: keys, found => do
    match ← Context.textOf c.scratch key with
    | none | some "" => collectMetadata c keys found
    | some text => collectMetadata c keys (found.set key text)

def result (c : Context) (executions : List KeywordExecution) (metadata : Entries String)
    (startedAt completedAt : Timestamp) (seconds : Float) (status : CaseStatus) : CaseResult where
  testId := d.testId
  testName := d.testName
  description := d.description
  status := status
  failureReason := c.failureReason
  failureHistory := c.failures
  ticketRef := d.ticketRef
  metadata := metadata
  keywords := executions
  startedAt := startedAt
  completedAt := some completedAt
  durationSeconds := seconds

/-- The result of what happened in a context so far. -/
def buildResult (keys : List String) (startedAt : Timestamp) (start : Float) :
    CaseProcedure CaseResult := do
  let s ← get
  let metadata ← CaseProcedure.ofExcept (collectMetadata s.context keys [])
  let completedAt ← CaseProcedure.perform .now
  let seconds := (← CaseProcedure.perform .stopwatch) - start
  let status : CaseStatus := if s.context.passed then .passed else .failed
  CaseProcedure.ofExcept
    (d.result s.context s.executions metadata startedAt completedAt seconds status).checkDuration

/-- The result of a test case whose own result could not be recorded. -/
def buildFailure (startedAt : Timestamp) (start : Float) : CaseProcedure CaseResult := do
  let s ← get
  let completedAt ← CaseProcedure.perform .now
  let seconds := (← CaseProcedure.perform .stopwatch) - start
  CaseProcedure.ofExcept
    (d.result s.context s.executions [] startedAt completedAt seconds .failed).checkDuration

/-- A failure screenshot; a fault of capturing is only logged. -/
def captureFailure (r : CaseResult) (unit : UnitId) : SharedProcedure (Option String) := do
  match ← (SharedProcedure.perform
      (.captureOnFailure r.testId r.testName r.failureReason unit)).attempt with
  | .ok path => return path
  | .error fault =>
    SharedProcedure.log .error
      ("Failure screenshot for " ++ r.testId ++ " failed: " ++ fault.message)
    return none

def reportOutcome (listeners : List String) (r : CaseResult) (unit : UnitId) :
    SharedProcedure Unit := do
  if r.passed then
    let _ ← tellReport (.finishCase .passed r.testId r.testName "Test case passed successfully")
  else
    match ← captureFailure r unit with
    | none | some "" => pure ()
    | some path =>
      let _ ← tellReport (.attach r.testId r.testName path "Failure Screenshot")
    let _ ← tellReport (.finishCase .failed r.testId r.testName
      ("Test failed: " ++ r.failureReason.getD "None"))
  informAll (.result r) 0 listeners

def conclude (plan : SuitePlan) (unit : UnitId) (startedAt : Timestamp) (start : Float) :
    CaseProcedure CaseResult := do
  if let .error fault ← (d.execute plan.registry).attempt then
    CaseProcedure.log .error ("Exception in test case " ++ d.testId ++ ": " ++ fault.message)
    CaseProcedure.fail ("Exception: " ++ fault.message)
  let r ← match ← (d.buildResult plan.metadataKeys startedAt start).attempt with
    | .ok r => pure r
    | .error fault =>
      CaseProcedure.log .error
        ("Exception while recording test case " ++ d.testId ++ ": " ++ fault.message)
      CaseProcedure.fail ("Exception: " ++ fault.message)
      d.buildFailure startedAt start
  CaseProcedure.shared (reportOutcome plan.listeners r unit)
  return r

def release (unit : UnitId) : CaseProcedure Unit := do
  CaseProcedure.onContext ContextProcedure.cleanUp
  CaseProcedure.perform (.resetSession unit)

/-- Runs a test case on a unit: its result, and the state its context is left in. -/
def runWith (plan : SuitePlan) (unit : UnitId) : CaseProcedure CaseResult := do
  let startedAt ← CaseProcedure.perform .now
  let start ← CaseProcedure.perform .stopwatch
  CaseProcedure.log .info (d.eventText "started")
  let _ ← CaseProcedure.shared (tellReport (.beginCase d.testId d.testName d.description))
  let r ← (d.conclude plan unit startedAt start).andFinally (release unit)
  CaseProcedure.log .info (d.eventText (if r.passed then "passed" else "failed"))
  return r

def freshState (unit : UnitId) : CaseState := ⟨.new ⟨d.testId, d.testName, unit⟩ true, []⟩

def run (plan : SuitePlan) (unit : UnitId) : SharedProcedure CaseResult :=
  ExceptT.mk do
    let (r, _) ← (d.runWith plan unit).run (d.freshState unit)
    return r

end CaseDescriptor

end KeywordSuite
