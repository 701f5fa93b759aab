import KeywordSuite.Program
import KeywordSuite.Log.Level
import KeywordSuite.Session.Table

/-! # The session registry

The registry opens, closes and forgets the session of each unit. What creates and drives sessions
is a backend over a state of its own; a fault of the backend on closing is only logged.
-/

namespace KeywordSuite

/-- What creates and drives browser sessions. -/
structure SessionBackend (ω : Type) where
  log : LogLevel → String → ω → ω
  /-- Creates the session of a number. -/
  create : SessionId → SessionConfig → Act ω Unit
  browse : SessionId → (call : SessionCall) → Act ω call.Reply
  /-- Used where a session is opened without a configuration. -/
  defaultConfig : SessionConfig
  /-- What every attempt to close meets while the registry is out of order. -/
  closeFault : Option Fault := none

/-- The session table beside the state of everything else. -/
structure World (ω : Type) where
  sessions : SessionTable
  outer : ω

namespace World

variable {ω α : Type}

def zoom (act : Act ω α) : Act (World ω) α :=
  Act.zoom World.outer (fun outer w => { w with outer }) act

def modifySessions (f : SessionTable → SessionTable) : Act (World ω) Unit :=
  modify fun w => { w with sessions := f w.sessions }

end World

namespace SessionBackend

variable {ω : Type} (b : SessionBackend ω)

def note (level : LogLevel) (message : String) : Act (World ω) Unit :=
  modify fun w => { w with outer := b.log level message w.outer }

def liveSession? (unit : UnitId) : Act (World ω) (Option SessionId) :=
  return (← get).sessions.live? unit

def current (unit : UnitId) : Act (World ω) SessionId := do
  match ← liveSession? unit with
  | some session => return session
  | none => throw (.absentSession unit)

def isActive (unit : UnitId) : Act (World ω) Bool := return (← liveSession? unit).isSome

def isCurrent (session : SessionId) (unit : UnitId) : Act (World ω) Bool :=
  return (← liveSession? unit) == some session

/-- Opens a session for a unit, or gives back the one that is live. -/
def openSession (config : Option SessionConfig) (unit : UnitId) : Act (World ω) SessionId := do
  match ← liveSession? unit with
  | some session =>
    b.note .warning "Browser already initialized for this thread"
    return session
  | none =>
    -- a session that was closed in the slot is let go of before it is replaced
    World.modifySessions fun t => t.discard unit
    let config := config.getD b.defaultConfig
    b.note .info ("Initializing " ++ config.browser ++ " browser")
    let session := (← get).sessions.next
    match ← (World.zoom (b.create session config)).attempt with
    | .error fault =>
      let message := "Failed to initialize browser: " ++ fault.message
      b.note .error message
      throw (.suite (.session (some config.browser) (some unit)) message none [] (some fault))
    | .ok () =>
      World.modifySessions fun t => t.add unit
      return session

/-- Quits the live session of a unit; its slot is torn down even if quitting fails. -/
def close (unit : UnitId) : Act (World ω) Unit := do
  if let some fault := b.closeFault then throw fault
  if let some session ← liveSession? unit then
    match ← (World.zoom (b.browse session .quit)).attempt with
    | .ok _ => b.note .info "Browser closed"
    | .error fault => b.note .error ("Error closing browser: " ++ fault.message)
  World.modifySessions fun t => t.tearDown unit

def reset (unit : UnitId) : Act (World ω) Unit := do
  b.close unit
  World.modifySessions fun t => t.erase unit

def activeUnits : Act (World ω) (List UnitId) := return (← get).sessions.activeUnits

def closeAll : Act (World ω) Unit := do
  for unit in (← get).sessions.units do
    b.reset unit

end SessionBackend

end KeywordSuite
