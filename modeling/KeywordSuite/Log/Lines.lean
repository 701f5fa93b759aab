/-! # Lines of the log that more than one part of a run writes -/

namespace KeywordSuite

def caseEventLine (event label : String) : String :=
  "========== Test " ++ event ++ ": " ++ label ++ " =========="

def caseLabel (testId testName : String) : String := testId ++ " - " ++ testName

def measurementLine (name amount unit : String) : String :=
  "Performance metric: " ++ name ++ "=" ++ amount ++ unit

end KeywordSuite
