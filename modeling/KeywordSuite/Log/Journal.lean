import KeywordSuite.Log.Event

/-! # A log under way

A record is logged if its level is enabled and its extra attributes are allowed. The handlers write
it to the files and the output.
-/

namespace KeywordSuite

structure Journal (ε : Type) where
  level : LogLevel
  setup : LogSetup
  output : List String
  host : Host ε

namespace Journal

variable {ε α : Type}

def onHost (act : Act (Host ε) α) : Act (Journal ε) α :=
  Act.zoom Journal.host (fun host j => { j with host }) act

/-- Logs a record; answers the record if its level is enabled. -/
def log (r : Except Fault LogRecord) : Act (Journal ε) (Option LogRecord) := do
  let r ← Act.ofExcept r
  let j ← get
  if r.level.number < j.level.number then return none
  let r ← Act.ofExcept r.checked
  let lines ← onHost (j.setup.write r)
  let written := (lines.filter fun line => line.1 == .output).map (·.2)
  modify fun j => { j with output := j.output ++ written }
  return some r

/-- Sets the handlers up anew, and says so; the console is there even if the file cannot be opened. -/
def setUp (level format : String) (file : Option String) (sanitize : Bool) :
    Act (Journal ε) (Option LogRecord) := do
  let setup ← Act.ofExcept (LogSetup.new level format file sanitize)
  modify fun j => { j with setup := ⟨j.setup.rootLevel, setup.handlers.take 1⟩ }
  onHost (LogSetup.openFiles setup.handlers)
  modify fun j => { j with setup }
  log (.ok (LogSetup.firstRecord level format file sanitize))

end Journal

end KeywordSuite
