import KeywordSuite.Entries
import KeywordSuite.Report.Call
import KeywordSuite.Sanitizer.Basic

/-! # The record of a report

A report keeps one record per test id, in the order the ids first came. What is said about one test
case leaves the records of all others as they are.
-/

namespace KeywordSuite

/-- How far a test case of a report has come. -/
inductive CaseMark
  | running
  | passed
  | failed
  deriving DecidableEq, Repr

namespace CaseMark

def label : CaseMark → String
  | .running => "running"
  | .passed => "passed"
  | .failed => "failed"

def upperLabel : CaseMark → String
  | .running => "RUNNING"
  | .passed => "PASSED"
  | .failed => "FAILED"

def ofStatus : CaseStatus → CaseMark
  | .passed => .passed
  | .failed => .failed

end CaseMark

def EntryLevel.upperLabel : EntryLevel → String
  | .info => "INFO"
  | .passed => "PASSED"
  | .failed => "FAILED"
  | .warning => "WARNING"

structure ReportEntry where
  time : String
  level : EntryLevel
  message : String
  deriving DecidableEq, Repr

structure ReportArtifact where
  link : String
  caption : String
  deriving DecidableEq, Repr

structure ReportCase where
  testId : String
  testName : String
  description : String
  mark : CaseMark := .running
  details : String := ""
  entries : List ReportEntry := []
  artifacts : List ReportArtifact := []
  deriving DecidableEq, Repr

abbrev ReportCases := Entries ReportCase

namespace ReportCases

/-- The record of a test case, which is started if it is not there. -/
def record (cases : ReportCases) (testId testName : String) : ReportCase :=
  (cases.get? testId).getD { testId := testId, testName := testName, description := "" }

def change (cases : ReportCases) (testId testName : String) (f : ReportCase → ReportCase) :
    ReportCases :=
  cases.set testId (f (record cases testId testName))

/-- Starts the record of a test case afresh. -/
def start (cases : ReportCases) (testId testName description : String) : ReportCases :=
  cases.set testId { testId := testId, testName := testName, description := description }

def addEntry (cases : ReportCases) (testId testName : String) (e : ReportEntry) : ReportCases :=
  change cases testId testName fun c => { c with entries := c.entries ++ [e] }

def addArtifact (cases : ReportCases) (testId testName : String) (a : ReportArtifact) : ReportCases :=
  change cases testId testName fun c => { c with artifacts := c.artifacts ++ [a] }

def finish (cases : ReportCases) (testId testName : String) (mark : CaseMark) (details : String) :
    ReportCases :=
  change cases testId testName fun c => { c with mark := mark, details := details }

def list (cases : ReportCases) : List ReportCase := cases.map (·.2)

def count (cases : ReportCases) (mark : CaseMark) : Nat := cases.list.countP fun c => c.mark == mark

/-- The share of passed test cases in whole percent, without its fraction. -/
def successPercent (cases : ReportCases) : Int :=
  if cases.isEmpty then 0
  else
    let share := intToFloat (cases.count .passed) / intToFloat cases.length * 100.0
    (truncateFloat? share).getD 0

end ReportCases

end KeywordSuite
