import KeywordSuite.Proofs.Procedures

/-!
# The stages of a test case

A test case opens, executes its keywords, records a result, reports it and is released. Each stage
is a procedure of its own here, and a run of a test case meets what its stages meet one after another.
-/

namespace KeywordSuite

namespace CaseProcedure

theorem run_shared {α : Type} (p : SharedProcedure α) (st : CaseState) :
    shared p st = (ExceptT.run p).bind fun r => .done (r, st) :=
  Program.bind_assoc (ExceptT.run p) _ _

theorem shared_bind {α β : Type} (p : SharedProcedure α) (f : α → SharedProcedure β) :
    shared (p >>= f) = shared p >>= fun a => shared (f a) := by
  refine funext fun st => ?_
  refine (run_shared (p >>= f) st).trans ?_
  refine Eq.trans ?_ (congrArg (Program.bind · _) (run_shared p st)).symm
  refine (Program.bind_assoc (ExceptT.run p) _ _).trans
    (Eq.trans ?_ (Program.bind_assoc (ExceptT.run p) _ _).symm)
  refine congrArg (Program.bind (ExceptT.run p)) (funext fun r => ?_)
  cases r with
  | ok a => exact (run_shared (f a) st).symm
  | error fault => rfl

end CaseProcedure

namespace CaseDescriptor

variable (d : CaseDescriptor)

/-- Reads the clocks and tells that the test case starts: when it did. -/
def opening : SharedProcedure (Timestamp × Float) := do
  let startedAt ← SharedProcedure.perform .now
  let start ← SharedProcedure.perform .stopwatch
  SharedProcedure.log .info (d.eventText "started")
  let _ ← tellReport (.beginCase d.testId d.testName d.description)
  return (startedAt, start)

/-- Executes the keywords; a fault on the way is a reason of failure. -/
def attemptKeywords (registry : KeywordRegistry) : CaseProcedure Unit := do
  match ← (d.execute registry).attempt with
  | .ok () => return ()
  | .error fault =>
    CaseProcedure.log .error ("Exception in test case " ++ d.testId ++ ": " ++ fault.message)
    CaseProcedure.fail ("Exception: " ++ fault.message)

/-- Records the result, or the failure that a fault of recording it is. -/
def recordResult (keys : List String) (startedAt : Timestamp) (start : Float) : CaseProcedure CaseResult := do
  match ← (d.buildResult keys startedAt start).attempt with
  | .ok r => return r
  | .error fault =>
    CaseProcedure.log .error
      ("Exception while recording test case " ++ d.testId ++ ": " ++ fault.message)
    CaseProcedure.fail ("Exception: " ++ fault.message)
    d.buildFailure startedAt start

def stages (plan : SuitePlan) (unit : UnitId) (startedAt : Timestamp) (start : Float) :
    CaseProcedure CaseResult := do
  d.attemptKeywords plan.registry
  let r ← d.recordResult plan.metadataKeys startedAt start
  CaseProcedure.shared (reportOutcome plan.listeners r unit)
  return r

variable (plan : SuitePlan) (unit : UnitId) (startedAt : Timestamp) (start : Float)

theorem recordResult_bind {β : Type} (keys : List String) (k : CaseResult → CaseProcedure β) :
    d.recordResult keys startedAt start >>= k =
      (d.buildResult keys startedAt start).attempt >>= (fun
        | .ok r => k r
        | .error fault => do
          CaseProcedure.log .error
            ("Exception while recording test case " ++ d.testId ++ ": " ++ fault.message)
          CaseProcedure.fail ("Exception: " ++ fault.message)
          k (← d.buildFailure startedAt start)) := by
  unfold recordResult
  rw [bind_assoc]
  refine congrArg (_ >>= ·) (funext fun x => ?_)
  cases x with
  | ok r => rw [pure_bind]
  | error fault => simp only [bind_assoc]

theorem conclude_eq_stages : d.conclude plan unit startedAt start = d.stages plan unit startedAt start := by
  unfold conclude stages attemptKeywords
  rw [recordResult_bind, bind_assoc]
  refine congrArg (_ >>= ·) (funext fun x => ?_)
  cases x with
  | ok _ => rfl
  | error fault => exact (bind_assoc _ _ _).symm

theorem runWith_eq_stages : d.runWith plan unit = (do
    let (startedAt, start) ← CaseProcedure.shared d.opening
    let r ← (d.stages plan unit startedAt start).andFinally (release unit)
    CaseProcedure.log .info (d.eventText (if r.passed then "passed" else "failed"))
    return r) := by
  unfold runWith opening
  simp only [CaseProcedure.shared_bind, conclude_eq_stages, bind_assoc]
  rfl

end CaseDescriptor

/-- Plans that differ at most in their listeners. -/
structure SuitePlan.SameWork (plan plan' : SuitePlan) : Prop where
  registry : plan.registry = plan'.registry
  metadataKeys : plan.metadataKeys = plan'.metadataKeys
  workers : plan.workers = plan'.workers

theorem SuitePlan.SameWork.refl (plan : SuitePlan) : plan.SameWork plan := ⟨rfl, rfl, rfl⟩

end KeywordSuite
