import KeywordSuite.Case.Duration
import KeywordSuite.Fault.Checked

/-! # Test cases and their results

A descriptor names a test case, an execution records one keyword of it, and a result is its
verdict. A summary counts the results of a run.
-/

namespace KeywordSuite

/-- How one keyword ended; a soft failure is that of an optional keyword. -/
inductive KeywordStatus
  | passed
  | failed
  | softFailed
  deriving DecidableEq, Repr

def KeywordStatus.label : KeywordStatus → String
  | .passed => "passed"
  | .failed => "failed"
  | .softFailed => "soft_failed"

inductive CaseStatus
  | passed
  | failed
  deriving DecidableEq, Repr

def CaseStatus.label : CaseStatus → String
  | .passed => "passed"
  | .failed => "failed"

/-- The result of whatever a keyword returned: truth values and verdicts say how it went. -/
def Verdict.ofReturned : Value → Verdict
  | .verdict v => v
  | .bool true => .success
  | .bool false => .failure
  | _ => .noVerdict

structure KeywordExecution where
  keyword : String
  status : KeywordStatus
  reason : Option String
  durationMs : Float
  mandatory : Bool

namespace KeywordExecution

def succeeded (e : KeywordExecution) : Bool := e.status == .passed

def model : String := "KeywordExecution"

def readStatus : Value → Checked KeywordStatus :=
  Read.choice [("passed", .passed), ("failed", .failed), ("soft_failed", .softFailed)]
    "'passed', 'failed' or 'soft_failed'"

def read (data : Entries Value) : Checked KeywordExecution :=
  KeywordExecution.mk
    <$> field data "keyword" none Read.text
    <*> field data "status" none readStatus
    <*> field data "reason" (some none) (Read.optional Read.text)
    <*> field data "duration_ms" (some 0.0) Read.duration
    <*> field data "mandatory" (some true) Read.bool

/-- A record of a dispatch; a duration that is not at least zero is refused. -/
def record (keyword : String) (status : KeywordStatus) (reason : Option String)
    (durationMs : Float) (mandatory : Bool) : Except Fault KeywordExecution :=
  if 0.0 ≤ durationMs then .ok ⟨keyword, status, reason, durationMs, mandatory⟩
  else .error (.invalid model [⟨[.name "duration_ms"], .below 0⟩])

def toEntries (e : KeywordExecution) : Entries Value := [
  ("keyword", .text e.keyword),
  ("status", .text e.status.label),
  ("reason", optionText e.reason),
  ("duration_ms", .float e.durationMs),
  ("mandatory", .bool e.mandatory)]

end KeywordExecution

structure CaseDescriptor where
  testId : String
  testName : String
  description : String := ""
  ticketRef : Option String := none
  deriving DecidableEq, Repr, Inhabited

namespace CaseDescriptor

def model : String := "TestCaseDescriptor"

def read (data : Entries Value) : Checked CaseDescriptor :=
  CaseDescriptor.mk
    <$> field data "test_id" none Read.text
    <*> field data "test_name" none Read.text
    <*> field data "description" (some "") Read.text
    <*> field data "ticket_ref" (some none) (Read.optional Read.text)

def toEntries (d : CaseDescriptor) : Entries Value := [
  ("test_id", .text d.testId),
  ("test_name", .text d.testName),
  ("description", .text d.description),
  ("ticket_ref", optionText d.ticketRef)]

end CaseDescriptor

def optionTimestamp : Option Timestamp → Value
  | some t => .datetime t
  | none => .null

structure CaseResult where
  testId : String
  testName : String
  description : String
  status : CaseStatus
  failureReason : Option String
  failureHistory : List String
  ticketRef : Option String
  metadata : Entries String
  keywords : List KeywordExecution
  startedAt : Timestamp
  completedAt : Option Timestamp
  durationSeconds : Float

namespace CaseResult

def passed (r : CaseResult) : Bool := r.status == .passed

def durationDisplay (r : CaseResult) : Except Fault String := durationText r.durationSeconds

def model : String := "TestCaseResult"

def readStatus : Value → Checked CaseStatus :=
  Read.choice [("passed", .passed), ("failed", .failed)] "'passed' or 'failed'"

def read (now : Timestamp) (data : Entries Value) : Checked CaseResult :=
  CaseResult.mk
    <$> field data "test_id" none Read.text
    <*> field data "test_name" none Read.text
    <*> field data "description" (some "") Read.text
    <*> field data "status" none readStatus
    <*> field data "failure_reason" (some none) (Read.optional Read.text)
    <*> field data "failure_history" (some []) (Read.list Read.text)
    <*> field data "ticket_ref" (some none) (Read.optional Read.text)
    <*> field data "metadata" (some []) (Read.entries Read.text)
    <*> field data "keywords" (some [])
      (Read.list (Read.model KeywordExecution.model KeywordExecution.read))
    <*> field data "started_at" (some now) Read.timestamp
    <*> field data "completed_at" (some none) (Read.optional Read.timestamp)
    <*> field data "duration_seconds" (some 0.0) Read.duration

def checkDuration (r : CaseResult) : Except Fault CaseResult :=
  if 0.0 ≤ r.durationSeconds then .ok r
  else .error (.invalid model [⟨[.name "duration_seconds"], .below 0⟩])

def toEntries (r : CaseResult) : Entries Value := [
  ("test_id", .text r.testId),
  ("test_name", .text r.testName),
  ("description", .text r.description),
  ("status", .text r.status.label),
  ("failure_reason", optionText r.failureReason),
  ("failure_history", .list (r.failureHistory.map .text)),
  ("ticket_ref", optionText r.ticketRef),
  ("metadata", .dict (r.metadata.map fun (key, text) => (key, .text text))),
  ("keywords", .list (r.keywords.map fun e => .dict e.toEntries)),
  ("started_at", .datetime r.startedAt),
  ("completed_at", optionTimestamp r.completedAt),
  ("duration_seconds", .float r.durationSeconds)]

end CaseResult

structure SuiteSummary where
  total : Int
  passed : Int
  failed : Int
  startedAt : Timestamp
  completedAt : Option Timestamp
  results : List CaseResult

namespace SuiteSummary

def model : String := "SuiteSummary"

def read (now : Timestamp) (data : Entries Value) : Checked SuiteSummary :=
  SuiteSummary.mk
    <$> field data "total" (some 0) Read.int
    <*> field data "passed" (some 0) Read.int
    <*> field data "failed" (some 0) Read.int
    <*> field data "started_at" (some now) Read.timestamp
    <*> field data "completed_at" (some none) (Read.optional Read.timestamp)
    <*> field data "results" (some []) (Read.list (Read.model CaseResult.model (CaseResult.read now)))

def ofResults (results : List CaseResult) (startedAt completedAt : Timestamp) : SuiteSummary :=
  let passed := results.countP CaseResult.passed
  ⟨results.length, passed, (results.length : Int) - passed, startedAt, some completedAt, results⟩

/-- The share of passed test cases in percent. -/
def successRate (s : SuiteSummary) : Float :=
  if s.total = 0 then 0.0 else intToFloat s.passed / intToFloat s.total * 100.0

/-- The seconds from start to completion, never below zero. -/
def durationSeconds (s : SuiteSummary) : Except Fault Float :=
  match s.completedAt with
  | none => .ok 0.0
  | some completedAt =>
    match completedAt.secondsSince? s.startedAt with
    | some seconds => .ok (if 0.0 < seconds then seconds else 0.0)
    | none =>
      .error (.plain .wrongType "can't subtract offset-naive and offset-aware datetimes")

def allPassed (s : SuiteSummary) : Bool := s.failed = 0

def toEntries (s : SuiteSummary) : Entries Value := [
  ("total", .int s.total),
  ("passed", .int s.passed),
  ("failed", .int s.failed),
  ("started_at", .datetime s.startedAt),
  ("completed_at", optionTimestamp s.completedAt),
  ("results", .list (s.results.map fun r => .dict r.toEntries))]

end SuiteSummary

end KeywordSuite
