import KeywordSuite.CommandLine.Options

/-! # The help text of the command line

A flag and what it does stand on one line where the flag is short enough, otherwise on two.
-/

namespace KeywordSuite

def programName : String := "keyrunner"

def programTitle : String := "KeyRunner - Keyword-Driven UI Test Runner"

def programVersion : String := "0.1.0"

namespace Flag

def valueName : Flag → String
  | .excelDir => " EXCEL_DIR"
  | .jsonSuite => " JSON_SUITE"
  | .browser => " \x7b" ++ ",".intercalate browserChoices ++ "\x7d"
  | .workers => " WORKERS"
  | .output => " OUTPUT"
  | .help | .headless | .noEmail | .listKeywords | .debug | .version => ""

def purpose : Flag → List String
  | .help => ["show this help message and exit"]
  | .excelDir => ["Directory holding TestRunner.xlsx, TestFlow.xlsx and", "TestData.xlsx"]
  | .jsonSuite => ["JSON suite file with test cases, keywords and data"]
  | .browser => ["Browser to run the tests in"]
  | .headless => ["Run browser in headless mode"]
  | .workers => ["Number of test cases run in parallel"]
  | .output => ["Directory for reports and screenshots"]
  | .noEmail => ["Do not send the summary email"]
  | .listKeywords => ["List registered keywords and exit"]
  | .debug => ["Enable debug logging"]
  | .version => ["Show version information"]

/-- Columns of a line that the flag takes, from the left margin to the purpose. -/
def purposeColumn : Nat := 24

def spaces (n : Nat) : String := String.ofList (List.replicate n ' ')

def helpLines (f : Flag) : List String :=
  let head := "  " ++ ", ".intercalate (f.names.map (· ++ f.valueName))
  let indented (line : String) : String := spaces purposeColumn ++ line
  match f.purpose with
  | first :: others =>
    if head.length + 2 ≤ purposeColumn then
      (head ++ spaces (purposeColumn - head.length) ++ first) :: others.map indented
    else head :: (first :: others).map indented
  | [] => [head]

end Flag

def usageLines : List String := [
  "usage: keyrunner [-h] [--excel-dir EXCEL_DIR | --json-suite JSON_SUITE]",
  "                 [--browser \x7bchrome,firefox,edge,safari\x7d] [--headless]",
  "                 [--workers WORKERS] [--output OUTPUT] [--no-email]",
  "                 [--list-keywords] [--debug] [--version]"]

def exampleLines : List String := [
  "Examples:",
  "  # Run the active test cases of the Excel workbooks",
  "  keyrunner --excel-dir resources/excel",
  "",
  "  # Run a JSON suite headless on four workers",
  "  keyrunner --json-suite suites/smoke.json --headless --workers 4",
  "",
  "  # List every registered keyword",
  "  keyrunner --list-keywords",
  "        "]

def helpText : String :=
  let lines := usageLines ++ ["", programTitle ++ " v" ++ programVersion, "", "options:"]
    ++ Flag.all.flatMap Flag.helpLines ++ [""] ++ exampleLines
  String.join (lines.map (· ++ "\n"))

namespace CommandStop

def text : CommandStop → String
  | .help => helpText
  | .misuse problem => String.join (usageLines.map (· ++ "\n"))
      ++ programName ++ ": error: " ++ problem.message ++ "\n"

def exitStatus : CommandStop → Nat
  | .help => 0
  | .misuse _ => 2

end CommandStop

end KeywordSuite
