import KeywordSuite.Case.Result
import KeywordSuite.CommandLine.Help
import KeywordSuite.Keyword.Registry
import KeywordSuite.Settings.Basic

/-! # The screen of a run

What a run shows on the console: texts with style marks, tables and panels.
-/

namespace KeywordSuite

inductive Notice
  | text (marked : String)
  | table (title : String) (columns : List String) (rows : List (List String))
  | panel (marked : String) (title : Option String) (border : String)
  deriving DecidableEq, Repr

namespace Notice

def styled (style text : String) : String := "[" ++ style ++ "]" ++ text ++ "[/" ++ style ++ "]"

def programHead : String := styled "bold cyan" programTitle

def versions : List Notice := [
  .text ("\n" ++ programHead),
  .text ("Version: " ++ styled "green" programVersion)]

def invalidConfiguration (fault : Fault) : Notice :=
  .text (styled "red" ("Invalid configuration: " ++ fault.message))

def unreadableDefinitions (message : String) : Notice :=
  .text (styled "red" ("Could not load test definitions: " ++ message))

def fatal (message : String) : Notice := .text (styled "red" ("Fatal error: " ++ message))

def interrupted : Notice := .text ("\n" ++ styled "yellow" "Test execution interrupted")

def keywords (r : KeywordRegistry) : Notice :=
  .table ("Registered Keywords (" ++ toString r.count ++ ")")
    ["Keyword", "Mandatory", "Provider", "Description"]
    (r.entries.map fun e =>
      [e.name, if e.mandatory then "yes" else "no", e.provider, e.description])

def opening (s : Settings) : Notice :=
  .panel (programHead ++ "\nBrowser: " ++ s.browser ++ " | Workers: " ++ toString s.parallelWorkers
    ++ " | Environment: " ++ s.environment) none "cyan"

def resultRow (r : CaseResult) : Except Fault (List String) := do
  return [r.testId, r.testName,
    if r.passed then styled "green" "PASSED" else styled "red" "FAILED",
    ← r.durationDisplay, r.failureReason.getD ""]

def summary (s : SuiteSummary) (report : Option String) : Except Fault (List Notice) := do
  let rows ← s.results.mapM resultRow
  let counts := "Total: " ++ toString s.total ++ "  Passed: " ++ toString s.passed ++ "  Failed: "
    ++ toString s.failed ++ "\nSuccess rate: " ++ fixedFloatText 1 s.successRate ++ "%"
  return [
    .table "Test Results" ["Test ID", "Test Name", "Status", "Duration", "Failure Reason"] rows,
    .panel counts (some "Summary") (if s.allPassed then "green" else "red")]
    ++ report.toList.map fun path => .text (styled "dim" ("HTML report: " ++ path))

end Notice

end KeywordSuite
