import KeywordSuite.Log.Level
import KeywordSuite.Log.Template

/-! # Log records

A record holds a message, the arguments that are put into it, and where it comes from. The text of a
record is its message with the arguments put in, where it has any.
-/

namespace KeywordSuite

/-- What is put into a message: nothing, items in order, or values by name. -/
inductive LogArguments
  | none
  | items (vs : List Value)
  | named (entries : Entries Value)

structure LogRecord where
  logger : String
  level : LogLevel
  message : Value
  arguments : LogArguments
  moduleName : String
  function : String
  line : Int
  thread : String
  fault : Option Fault
  extra : Entries Value

namespace LogArguments

/-- A single mapping that is not empty is used by name. -/
def ofItems : List Value → LogArguments
  | [.dict (entry :: more)] => .named (entry :: more)
  | vs => .items vs

def isEmpty : LogArguments → Bool
  | .none => true
  | .items vs => vs.isEmpty
  | .named entries => entries.isEmpty

end LogArguments

namespace LogRecord

def text (r : LogRecord) : Except Fault String := do
  let message ← r.message.textOrFault
  match r.arguments with
  | .none | .items [] | .named [] => return message
  | .items vs => LogTemplate.apply message (.items vs)
  | .named entries => LogTemplate.apply message (.named entries (some (.dict entries)))

end LogRecord

end KeywordSuite
