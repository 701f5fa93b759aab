import KeywordSuite.Keyword.Context

/-! # Keyword procedures

What the implementation of a keyword may do: operations on its own context and shared operations,
and nothing else. Run against a context, a keyword becomes a program of shared operations.
-/

namespace KeywordSuite

inductive KeywordOp
  | fail (reason : String)
  | addInput (key : String) (value : Value)
  | input (key : String)
  | put (key : String) (value : Value)
  | scratch (key : String)
  | attach (session : Option SessionId)
  | attached
  | passed
  | cleanUp
  | shared (op : SharedOp)

abbrev KeywordOp.Reply : KeywordOp → Type
  | .input _ | .scratch _ => Option Value
  | .attached => Option SessionId
  | .passed => Bool
  | .shared op => op.Reply
  | .fail _ | .addInput .. | .put .. | .attach _ | .cleanUp => Unit

abbrev KeywordProcedure (α : Type) := Procedure KeywordOp.Reply α

abbrev KeywordBody := CaseIdentity → KeywordProcedure Value

def KeywordOp.serve : (op : KeywordOp) → ContextProcedure op.Reply
  | .fail reason => ContextProcedure.fail reason
  | .addInput key value => modify fun c => c.addInput key value
  | .input key => return (← get).input.get? key
  | .put key value => modify fun c => c.put key value
  | .scratch key => return (← get).scratch.get? key
  | .attach session => modify fun c => c.attach session
  | .attached => return (← get).session
  | .passed => return (← get).passed
  | .cleanUp => ContextProcedure.cleanUp
  | .shared op => ContextProcedure.perform op

def KeywordOp.runProgram {α : Type} :
    Program KeywordOp.Reply α → Context → Program SharedOp.Reply (α × Context)
  | .done a, c => .done (a, c)
  | .call op resume, c =>
    (op.serve.run c).bind fun (reply, c) => runProgram (resume reply) c

namespace KeywordProcedure

variable {α : Type}

def perform (op : KeywordOp) : KeywordProcedure op.Reply := Procedure.perform op

def shared (op : SharedOp) : KeywordProcedure op.Reply := perform (.shared op)

def log (level : LogLevel) (message : String) : KeywordProcedure Unit := shared (.log level message)

def runIn (p : KeywordProcedure α) : ContextProcedure α :=
  ContextProcedure.make fun c => KeywordOp.runProgram (ExceptT.run p) c

def ofExcept : Except Fault α → KeywordProcedure α
  | .ok a => pure a
  | .error fault => throw fault

/-- The input of a key as text; nothing where there is none. -/
def inputText (key : String) : KeywordProcedure (Option String) := do
  match ← perform (.input key) with
  | none | some .null => return none
  | some v => some <$> ofExcept v.textOrFault

end KeywordProcedure

end KeywordSuite
