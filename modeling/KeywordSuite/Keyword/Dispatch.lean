import KeywordSuite.Keyword.Registry
import KeywordSuite.Log.Lines

/-! # Dispatch of keywords

A dispatch resolves a name, runs the keyword and turns its outcome into a record. A fault of the
keyword and a failure of a mandatory keyword fail the test case; a failure of an optional keyword
does not.
-/

namespace KeywordSuite

namespace KeywordRegistry

variable (r : KeywordRegistry)

/-- A record of a dispatch, or the fault that refuses it. -/
def conclude (e : Except Fault KeywordExecution) : ContextProcedure KeywordExecution :=
  ContextProcedure.make fun c => pure (e, c)

def reportUnknown (name : Option String) : ContextProcedure KeywordExecution := do
  let reason := "Unknown keyword: " ++ name.getD "None"
  ContextProcedure.log .error reason
  ContextProcedure.fail reason
  return ⟨canonicalName (name.getD ""), .failed, some reason, 0.0, true⟩

/-- Judges what a keyword returned: the status and the reason of its record. -/
def judge (entry : KeywordEntry) (returned : Value) :
    ContextProcedure (KeywordStatus × Option String) := do
  match Verdict.ofReturned returned with
  | .success =>
    ContextProcedure.log .info ("Keyword passed: " ++ entry.name)
    return (.passed, none)
  | .noVerdict =>
    match returned with
    | .null => ContextProcedure.log .info ("Keyword completed without verdict: " ++ entry.name)
    | other =>
      ContextProcedure.log .warning ("Keyword " ++ entry.name ++ " returned non-boolean value: "
        ++ other.kindName ++ ". Treating as success.")
    return (.passed, none)
  | .failure =>
    if entry.mandatory then
      let reason := "Mandatory keyword failed: " ++ entry.name
      ContextProcedure.log .error reason
      match (← get).failureReason with
      | none =>
        ContextProcedure.fail reason
        return (.failed, some reason)
      | some first => return (.failed, some first)
    else
      let reason := "Optional keyword failed: " ++ entry.name
      ContextProcedure.log .warning (reason ++ ". Continuing test execution.")
      return (.softFailed, some reason)

def runEntry (entry : KeywordEntry) : ContextProcedure KeywordExecution := do
  ContextProcedure.log .info ("Executing keyword: " ++ entry.name)
  let start ← ContextProcedure.perform .stopwatch
  let outcome ← (entry.body (← get).identity).runIn.attempt
  let elapsed := ((← ContextProcedure.perform .stopwatch) - start) * 1000.0
  match outcome with
  | .error fault =>
    let reason := "Error executing keyword: " ++ entry.name ++ " - " ++ fault.message
    ContextProcedure.log .error reason
    ContextProcedure.fail reason
    conclude (KeywordExecution.record entry.name .failed (some reason) elapsed entry.mandatory)
  | .ok returned =>
    ContextProcedure.log .debug (measurementLine "keyword_execution" (floatText elapsed) "ms")
    let (status, reason) ← judge entry returned
    conclude (KeywordExecution.record entry.name status reason elapsed entry.mandatory)

def dispatch (name : Option String) : ContextProcedure KeywordExecution :=
  match r.resolve? name with
  | none => reportUnknown name
  | some entry => runEntry entry

end KeywordRegistry

end KeywordSuite
