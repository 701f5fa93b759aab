import KeywordSuite.Log.Lines
import KeywordSuite.Log.Setup

/-! # Records of events, measurements and contexts -/

namespace KeywordSuite

def Value.isGiven : Value → Bool
  | .null | .bool false | .int 0 | .text "" | .list [] | .dict [] => false
  | .float x => !(x == 0.0)
  | _ => true

namespace LogRecord

/-- A record of this library's own log functions. -/
def internal (logger : String) (level : LogLevel) (function message : String)
    (extra : Entries Value) : LogRecord where
  logger := logger
  level := level
  message := .text message
  arguments := .none
  moduleName := "logger"
  function := function
  line := 0
  thread := "MainThread"
  fault := none
  extra := extra

/-- A record, unless its extra attributes would replace one of a record's own. -/
def checked (r : LogRecord) : Except Fault LogRecord :=
  match extraFault? r.extra with
  | some fault => .error fault
  | none => .ok r

def caseEvent (event testId testName data : Value) : Except Fault LogRecord := do
  let extra : Entries Value := [("event_type", event), ("test_id", testId)]
  let extra := if testName.isGiven then extra.set "test_name" testName else extra
  let extra := extra.setAll data.entries
  let line ←
    if testName.isGiven then do
      let label := caseLabel (← testId.textOrFault) (← testName.textOrFault)
      pure (caseEventLine (← event.textOrFault) label)
    else pure (caseEventLine (← event.textOrFault) (← testId.textOrFault))
  return internal "keyrunner.test_events" .info "log_test_event" line extra

def measurement (name value unit context : Value) : Except Fault LogRecord := do
  let extra : Entries Value := [("metric_name", name), ("value", value), ("unit", unit)]
  let name ← name.textOrFault
  let amount ← value.textOrFault
  let unit ← unit.textOrFault
  return internal "keyrunner.performance" .debug "log_performance_metric"
    (measurementLine name amount unit) (extra.setAll context.entries)

end LogRecord

/-- Extra attributes with those of a context on top. -/
def stampContext (context extra : Entries Value) : Entries Value := extra.setAll context

end KeywordSuite
