import KeywordSuite.Program
import KeywordSuite.Log.Level
import KeywordSuite.Report.Call
import KeywordSuite.Session.Call

/-! # Operations shared by test cases

What a running test case may do beyond its own context: log, read the clock, use the session
registry and live sessions, report, capture screenshots, inform listeners and load definitions.
Each operation is one step; steps of different test cases may alternate.
-/

namespace KeywordSuite

inductive SharedOp
  | log (level : LogLevel) (message : String)
  | now
  | stopwatch
  | sleep (seconds : Float)
  | openSession (config : Option SessionConfig) (unit : UnitId)
  | closeSession (unit : UnitId)
  | resetSession (unit : UnitId)
  | currentSession (unit : UnitId)
  | isActive (unit : UnitId)
  | isCurrent (session : SessionId) (unit : UnitId)
  | browse (session : SessionId) (call : SessionCall)
  | report (call : ReportCall)
  | captureOnDemand (label : String) (unit : UnitId)
  | captureOnFailure (testId testName : String) (reason : Option String) (unit : UnitId)
  | inform (listener : Nat) (news : SuiteNews)
  | loadInput (testId : String)
  | loadKeywords (testId : String)
  /-- Something done to the world that this library knows nothing of. -/
  | outside (action : String) (arguments : List Value)

abbrev SharedOp.Reply : SharedOp → Type
  | .now => Timestamp
  | .stopwatch => Float
  | .openSession .. | .currentSession _ => SessionId
  | .isActive _ | .isCurrent .. => Bool
  | .browse _ call => call.Reply
  | .report _ | .captureOnDemand .. | .captureOnFailure .. => Option String
  | .loadInput _ => Entries Value
  | .loadKeywords _ => List Value
  | .outside .. => Value
  | .log .. | .sleep _ | .closeSession _ | .resetSession _ | .inform .. => Unit

abbrev SharedProcedure (α : Type) := Procedure SharedOp.Reply α

namespace SharedProcedure

def perform (op : SharedOp) : SharedProcedure op.Reply := Procedure.perform op

def log (level : LogLevel) (message : String) : SharedProcedure Unit := perform (.log level message)

end SharedProcedure

end KeywordSuite
