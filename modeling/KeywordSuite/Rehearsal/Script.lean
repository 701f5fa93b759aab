import KeywordSuite.Keyword.Registry

/-! # Scripted keywords

A scripted keyword does the steps of a script and ends with what the script returns or raises. A
step may branch on the input data.
-/

namespace KeywordSuite

namespace Value

/-- The number that a number or a truth value counts as. -/
def count? : Value → Option Int
  | .int n => some n
  | .bool b => some (if b then 1 else 0)
  | _ => none

mutual
/-- Whether two values are equal; numbers are by what they count, and mappings in any order. -/
def same : Value → Value → Bool
  | .null, .null => true
  | .text a, .text b => a = b
  | .text a, .verdict b => a = b.label
  | .verdict a, .text b => a.label = b
  | .verdict a, .verdict b => a = b
  | .list as, .list bs => sameItems as bs
  | .dict as, .dict bs => as.length = bs.length && sameEntries as bs
  | .datetime a, .datetime b => a = b
  | .date a, .date b => a = b
  | .time a, .time b => a = b
  | .float a, .float b => a == b
  | .float a, b => b.count?.any fun n => a == intToFloat n
  | a, .float b => a.count?.any fun n => intToFloat n == b
  | a, b =>
    match a.count?, b.count? with
    | some m, some n => m = n
    | _, _ => false

def sameItems : List Value → List Value → Bool
  | [], [] => true
  | a :: as, b :: bs => same a b && sameItems as bs
  | _, _ => false

def sameEntries : Entries Value → Entries Value → Bool
  | [], _ => true
  | (key, a) :: as, bs =>
    (match Entries.get? bs key with
      | some b => same a b
      | none => false) && sameEntries as bs
end

end Value

inductive ScriptStep
  | fail (reason : String)
  | put (key : String) (value : Value)
  | copyInput (source target : String)
  | addInput (key : String) (value : Value)
  | openSession (attached : Bool)
  | closeSession
  | resetSession
  | cleanUp
  /-- Lets time pass, without sleeping. -/
  | advance (seconds : Value)

inductive Script
  | finish (outcome : Except Fault Value)
  | step (s : ScriptStep) (rest : Script)
  | ifInput (key : String) (value : Value) (branch rest : Script)

instance : Inhabited Script := ⟨.finish (.ok .null)⟩

def ScriptStep.run (unit : UnitId) : ScriptStep → KeywordProcedure Unit
  | .fail reason => KeywordProcedure.perform (.fail reason)
  | .put key value => KeywordProcedure.perform (.put key value)
  | .copyInput source target => do
    let text ← KeywordProcedure.inputText source
    KeywordProcedure.perform (.put target (optionText text))
  | .addInput key value => KeywordProcedure.perform (.addInput key value)
  | .openSession attached => do
    let session ← KeywordProcedure.shared (.openSession none unit)
    if attached then KeywordProcedure.perform (.attach (some session))
  | .closeSession => KeywordProcedure.shared (.closeSession unit)
  | .resetSession => KeywordProcedure.shared (.resetSession unit)
  | .cleanUp => KeywordProcedure.perform .cleanUp
  | .advance seconds => do
    let _ ← KeywordProcedure.shared (.outside "advance" [seconds])

def Script.run (unit : UnitId) : Script → KeywordProcedure Value
  | .finish outcome => KeywordProcedure.ofExcept outcome
  | .step s rest => do
    s.run unit
    rest.run unit
  | .ifInput key value branch rest => do
    match ← KeywordProcedure.perform (.input key) with
    | some found => if found.same value then branch.run unit else rest.run unit
    | none => if Value.same .null value then branch.run unit else rest.run unit

/-- The body of a scripted keyword; it first tells its mark and its declared name. -/
def Script.body (mark name : String) (script : Script) : KeywordBody := fun id => do
  let _ ← KeywordProcedure.shared (.outside "keyword" [.text mark, .text id.testId, .text name])
  script.run id.unit

def Script.markOf (body : KeywordBody) : Option Value :=
  match ExceptT.run (body ⟨"", "", .calling⟩) with
  | .call (.shared (.outside "keyword" (mark :: _))) _ => some mark
  | _ => none

end KeywordSuite
