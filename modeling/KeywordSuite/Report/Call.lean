import KeywordSuite.Case.Result

/-! # What is told to reports and listeners -/

namespace KeywordSuite

inductive EntryLevel
  | info
  | passed
  | failed
  | warning
  deriving DecidableEq, Repr

def EntryLevel.label : EntryLevel → String
  | .info => "info"
  | .passed => "passed"
  | .failed => "failed"
  | .warning => "warning"

inductive ReportCall
  | beginSuite
  | beginCase (testId testName description : String)
  | log (level : EntryLevel) (testId testName message : String)
  | attach (testId testName path caption : String)
  | finishCase (status : CaseStatus) (testId testName details : String)
  | endSuite
  deriving DecidableEq, Repr

def ReportCall.method : ReportCall → String
  | .beginSuite => "begin_suite"
  | .beginCase .. => "begin_case"
  | .log .info .. => "log_info"
  | .log .passed .. => "log_pass"
  | .log .failed .. => "log_fail"
  | .log .warning .. => "log_warning"
  | .attach .. => "attach_artifact"
  | .finishCase .passed .. => "mark_case_passed"
  | .finishCase .failed .. => "mark_case_failed"
  | .endSuite => "end_suite"

def ReportCall.arguments : ReportCall → List String
  | .beginSuite | .endSuite => []
  | .beginCase testId testName description => [testId, testName, description]
  | .log _ testId testName message => [testId, testName, message]
  | .attach testId testName path caption => [testId, testName, path, caption]
  | .finishCase _ testId testName details => [testId, testName, details]

def ReportCall.testId? : ReportCall → Option String
  | .beginCase testId .. | .log _ testId .. | .attach testId .. | .finishCase _ testId .. => some testId
  | .beginSuite | .endSuite => none

/-- What listeners learn: each result, and the summary at the end. -/
inductive SuiteNews
  | result (r : CaseResult)
  | finished (s : SuiteSummary)

def SuiteNews.method : SuiteNews → String
  | .result _ => "add_result"
  | .finished _ => "on_suite_finished"

end KeywordSuite
