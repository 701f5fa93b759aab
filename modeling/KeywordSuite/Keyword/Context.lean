import KeywordSuite.Suite.Operation

/-! # The context of a running test case

A context holds the input data of a test case, a scratch space that keywords hand values on with,
the attached session, and the reasons of its failures. A context with a reason has failed and stays
failed, and the first reason is the one reported.
-/

namespace KeywordSuite

structure CaseIdentity where
  testId : String
  testName : String
  unit : UnitId
  deriving DecidableEq, Repr

structure Context where
  identity : CaseIdentity
  /-- Whether the context may release sessions in the registry. -/
  hasRegistry : Bool
  input : Entries Value
  scratch : Entries Value
  /-- The reasons of all failures, oldest first. -/
  failures : List String
  session : Option SessionId
  cleanedUp : Bool

namespace Context

def new (identity : CaseIdentity) (hasRegistry : Bool) : Context :=
  ⟨identity, hasRegistry, [], [], [], none, false⟩

def passed (c : Context) : Bool := c.failures.isEmpty

def failureReason (c : Context) : Option String := c.failures.head?

def fail (c : Context) (reason : String) : Context := { c with failures := c.failures ++ [reason] }

def addInput (c : Context) (key : String) (value : Value) : Context :=
  { c with input := c.input.set key value }

def setInput (c : Context) (data : Entries Value) : Context := { c with input := c.input.setAll data }

def put (c : Context) (key : String) (value : Value) : Context :=
  { c with scratch := c.scratch.set key value }

def attach (c : Context) (session : Option SessionId) : Context := { c with session }

/-- The input of a key as text; nothing where there is none. -/
def textOf (entries : Entries Value) (key : String) : Except Fault (Option String) :=
  match entries.get? key with
  | none | some .null => .ok none
  | some v => some <$> v.textOrFault

def reasonDisplay : Option String → String
  | some s => Text.quoted s
  | none => "None"

def display (c : Context) : String :=
  "ExecutionContext(test_id=" ++ Text.quoted c.identity.testId
    ++ ", passed=" ++ (if c.passed then "True" else "False")
    ++ ", failure_reason=" ++ reasonDisplay c.failureReason ++ ")"

end Context

/-- Changes a context beside doing shared operations. -/
abbrev ContextProcedure (α : Type) := ExceptT Fault (StateT Context (Program SharedOp.Reply)) α

namespace ContextProcedure

variable {α : Type}

def make (f : Context → Program SharedOp.Reply (Except Fault α × Context)) : ContextProcedure α :=
  ExceptT.mk f

def run (p : ContextProcedure α) (c : Context) : Program SharedOp.Reply (Except Fault α × Context) :=
  StateT.run (ExceptT.run p) c

def shared (p : SharedProcedure α) : ContextProcedure α :=
  make fun c => do
    let r ← ExceptT.run p
    return (r, c)

def perform (op : SharedOp) : ContextProcedure op.Reply := shared (SharedProcedure.perform op)

def log (level : LogLevel) (message : String) : ContextProcedure Unit := perform (.log level message)

/-- The outcome of a procedure, unless the user interrupted it. -/
def attempt (p : ContextProcedure α) : ContextProcedure (Except Fault α) :=
  make fun c => do
    let (r, c) ← p.run c
    match r with
    | .ok a => return (.ok (.ok a), c)
    | .error fault => return (if fault.isInterrupt then .error fault else .ok (.error fault), c)

def fail (reason : String) : ContextProcedure Unit := do
  modify fun c => c.fail reason
  log .error ("Test failed: " ++ reason)

/--
Releases what the test case acquired. Only the first call closes the attached session, and only
while it is the live one of the context's unit; every call drops it and clears the scratch space.
-/
def cleanUp : ContextProcedure Unit := do
  let c ← get
  set { c with cleanedUp := true, session := none }
  if let some session := c.session then
    if !c.cleanedUp && c.hasRegistry then
      let closing : ContextProcedure Unit := do
        if ← perform (.isCurrent session c.identity.unit) then
          perform (.closeSession c.identity.unit)
      if let .error fault ← closing.attempt then
        log .error ("Error closing browser during cleanup: " ++ fault.message)
  modify fun c => { c with scratch := [] }

end ContextProcedure

end KeywordSuite
