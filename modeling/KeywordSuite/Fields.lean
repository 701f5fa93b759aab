import KeywordSuite.Fault.Basic

/-! # Assignment to a field of a record

A frozen record refuses every assignment. The others take any value in a field of their own, but
nothing under a name that is computed or unknown. Names that start with an underscore are nobody's
business.
-/

namespace KeywordSuite

structure RecordShape where
  name : String
  frozen : Bool
  fields : List String
  computed : List String
  deriving DecidableEq, Repr

namespace RecordShape

def assign (r : RecordShape) (field : String) (value : Value) : Except Fault Value :=
  if field.startsWith "_" then .ok value
  else if r.frozen then .error (.invalid r.name [⟨[.name field], .frozen⟩])
  else if r.computed.contains field then
    .error (.plain .missingAttribute
      ("property " ++ Text.quoted field ++ " of " ++ Text.quoted r.name ++ " object has no setter"))
  else if r.fields.contains field then .ok value
  else .error (.plain .value ("\"" ++ r.name ++ "\" object has no field \"" ++ field ++ "\""))

end RecordShape

end KeywordSuite
