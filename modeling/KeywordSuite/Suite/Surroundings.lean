import KeywordSuite.Report.Screenshots
import KeywordSuite.Suite.Operation

/-! # The surroundings of a suite

What a suite runs in: a session backend, clocks, definitions, and where its progress goes. Every
shared operation is handled as one action on the session table and the state of the surroundings.
-/

namespace KeywordSuite

structure Listener (ω : Type) where
  name : String
  tell : SuiteNews → Act ω Unit

/-- Where test cases, their keywords and their input data come from. -/
structure DefinitionSource (ω : Type) where
  listActive : Act ω (List CaseDescriptor)
  loadInput : String → Act ω (Entries Value)
  loadKeywords : String → Act ω (List Value)

inductive CaptureDevice (ω : Type)
  | absent
  | screenshots (directory : FilePath)
  | other (onDemand : String → UnitId → Act ω (Option String))
      (onFailure : String → String → Option String → UnitId → Act ω (Option String))

structure Surroundings (ω : Type) extends SessionBackend ω where
  now : ω → Timestamp
  localNow : ω → Timestamp
  /-- Seconds on a clock that only measures durations. -/
  stopwatch : ω → Float
  sleep : Float → Act ω Unit
  source : DefinitionSource ω
  report : Option (ReportCall → Act ω (Option String))
  capture : CaptureDevice ω
  listeners : List (Listener ω)
  outside : String → List Value → Act ω Value

namespace Surroundings

variable {ω : Type} (s : Surroundings ω)

def readClock {α : Type} (clock : ω → α) : Act (World ω) α := return clock (← get).outer

def tellReport (call : ReportCall) : Act (World ω) (Option String) :=
  match s.report with
  | some report => World.zoom (report call)
  | none => return none

def captureOnDemand (label : String) (unit : UnitId) : Act (World ω) (Option String) :=
  match s.capture with
  | .absent => return none
  | .screenshots directory => Screenshots.onDemand s.toSessionBackend s.localNow directory label unit
  | .other onDemand _ => World.zoom (onDemand label unit)

def captureOnFailure (testId testName : String) (reason : Option String) (unit : UnitId) :
    Act (World ω) (Option String) :=
  match s.capture with
  | .absent => return none
  | .screenshots directory =>
    Screenshots.onFailure s.toSessionBackend s.localNow directory testId testName unit
  | .other _ onFailure => World.zoom (onFailure testId testName reason unit)

def inform (listener : Nat) (news : SuiteNews) : Act (World ω) Unit :=
  match s.listeners[listener]? with
  | some l => World.zoom (l.tell news)
  | none => return ()

def handle : (op : SharedOp) → Act (World ω) op.Reply
  | .log level message => s.note level message
  | .now => readClock s.now
  | .stopwatch => readClock s.stopwatch
  | .sleep seconds => World.zoom (s.sleep seconds)
  | .openSession config unit => s.openSession config unit
  | .closeSession unit => s.close unit
  | .resetSession unit => s.reset unit
  | .currentSession unit => SessionBackend.current unit
  | .isActive unit => SessionBackend.isActive unit
  | .isCurrent session unit => SessionBackend.isCurrent session unit
  | .browse session call => World.zoom (s.browse session call)
  | .report call => s.tellReport call
  | .captureOnDemand label unit => s.captureOnDemand label unit
  | .captureOnFailure testId testName reason unit => s.captureOnFailure testId testName reason unit
  | .inform listener news => s.inform listener news
  | .loadInput testId => World.zoom (s.source.loadInput testId)
  | .loadKeywords testId => World.zoom (s.source.loadKeywords testId)
  | .outside action arguments => World.zoom (s.outside action arguments)

def perform {α : Type} (p : SharedProcedure α) : Act (World ω) α := Procedure.act s.handle p

end Surroundings

end KeywordSuite
