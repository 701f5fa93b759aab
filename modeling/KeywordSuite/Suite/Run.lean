import KeywordSuite.Suite.Case
import KeywordSuite.Suite.Surroundings

/-! # Running a suite

A suite lists its active test cases and runs them one after another, or on a pool of workers. In a
pool a schedule says whose turn it is: a worker that is free takes the next test case, one that is
not does the next operation of its own. What the schedule leaves is finished in order. The results
are in the order of the test cases either way.
-/

namespace KeywordSuite

/-- A test case under way on a worker: its place in the suite and what is left of its program. -/
structure Running where
  place : Nat
  rest : Program SharedOp.Reply (Except Fault CaseResult)

structure Pool where
  /-- Test cases that no worker has taken, with their places. -/
  waiting : List (Nat × CaseDescriptor)
  workers : List (Option Running)
  finished : List (Nat × Except Fault CaseResult)

namespace Pool

variable {ω : Type} (s : Surroundings ω) (plan : SuitePlan)

def start (cases : List CaseDescriptor) (workers : Nat) : Pool :=
  ⟨cases.zipIdx.map fun (d, n) => (n, d), List.replicate workers none, []⟩

def program (d : CaseDescriptor) (unit : UnitId) : Program SharedOp.Reply (Except Fault CaseResult) :=
  ExceptT.run (d.run plan unit)

def step (p : Pool) (worker : Nat) (w : World ω) : Pool × World ω :=
  match p.workers[worker]? with
  | none => (p, w)
  | some none =>
    match p.waiting with
    | [] => (p, w)
    | (place, d) :: waiting =>
      ({ p with
        waiting := waiting
        workers := p.workers.set worker (some ⟨place, program plan d (.worker worker)⟩) }, w)
  | some (some ⟨place, .done r⟩) =>
    ({ p with
      workers := p.workers.set worker none
      finished := p.finished ++ [(place, r)] }, w)
  | some (some ⟨place, .call op resume⟩) =>
    let (reply, w) := (s.handle op).run w
    ({ p with workers := p.workers.set worker (some ⟨place, resume reply⟩) }, w)

def finishRunning : List (Option Running) → World ω →
    List (Nat × Except Fault CaseResult) × World ω
  | [], w => ([], w)
  | none :: rest, w => finishRunning rest w
  | some r :: rest, w =>
    let (outcome, w) := r.rest.run s.handle w
    let (others, w) := finishRunning rest w
    ((r.place, outcome) :: others, w)

def finishWaiting : List (Nat × CaseDescriptor) → World ω →
    List (Nat × Except Fault CaseResult) × World ω
  | [], w => ([], w)
  | (place, d) :: rest, w =>
    let (outcome, w) := (program plan d (.worker 0)).run s.handle w
    let (others, w) := finishWaiting rest w
    ((place, outcome) :: others, w)

/-- The outcomes of all test cases by place, after the turns of a schedule. -/
def outcomes (cases : List CaseDescriptor) (workers : Nat) (schedule : List Nat) (w : World ω) :
    List (Nat × Except Fault CaseResult) × World ω :=
  let (p, w) := schedule.foldl (fun (p, w) worker => p.step s plan worker w)
    (start cases workers, w)
  let (running, w) := finishRunning s p.workers w
  let (waited, w) := finishWaiting s plan p.waiting w
  (p.finished ++ running ++ waited, w)

/-- The results in the order of the test cases, or the first fault in that order. -/
def collect (outcomes : List (Nat × Except Fault CaseResult)) (count : Nat) :
    Except Fault (List CaseResult) :=
  ((List.range count).filterMap fun place => outcomes.lookup place).mapM id

end Pool

/-- How a run ended, and where its report was written. -/
structure SuiteOutcome where
  summary : Except Fault SuiteSummary
  reportPath : Option String

namespace Surroundings

variable {ω : Type} (s : Surroundings ω) (plan : SuitePlan)

/-- Ends the report, sums up and informs the listeners. -/
def finishSuite (results : List CaseResult) (startedAt : Timestamp) : SharedProcedure SuiteOutcome := do
  let path ← KeywordSuite.tellReport .endSuite
  let completedAt ← SharedProcedure.perform .now
  let summary := SuiteSummary.ofResults results startedAt completedAt
  let informed ← (informAll (.finished summary) 0 plan.listeners).outcome
  return ⟨informed.map fun _ => summary, path⟩

/-- Runs test cases one after another on the calling unit. -/
def runEach : List CaseDescriptor → Act (World ω) (List CaseResult)
  | [] => return []
  | d :: rest => do
    let r ← s.perform (d.run plan .calling)
    return r :: (← runEach rest)

def runPool (cases : List CaseDescriptor) (workers : Nat) (schedule : List Nat) :
    Act (World ω) (List CaseResult) := do
  let outcomes ← Act.make fun w =>
    let (outcomes, w) := Pool.outcomes s plan cases workers schedule w
    (.ok outcomes, w)
  Act.ofExcept (Pool.collect outcomes cases.length)

def workerCount (cases : Nat) : Nat := min plan.workers (max cases 1)

def runAll (cases : List CaseDescriptor) (schedule : List Nat) : Act (World ω) (List CaseResult) := do
  let workers := workerCount plan cases.length
  if workers ≤ 1 then s.runEach plan cases
  else
    s.note .info ("Running test cases on " ++ toString workers ++ " worker threads")
    s.runPool plan cases workers schedule

def listFault (fault : Fault) : Fault :=
  match fault with
  | .suite (.definition ..) .. => fault
  | _ => .definition ("Failed to list test cases: " ++ fault.message) none (some fault)

/-- Runs the active test cases. If they cannot be listed, the report is ended without any. -/
def runListed (schedule : List Nat) : Act (World ω) SuiteOutcome := do
  let startedAt ← readClock s.now
  s.note .info "========== Starting Test Execution =========="
  let _ ← s.perform (KeywordSuite.tellReport .beginSuite)
  match ← (World.zoom s.source.listActive).attempt with
  | .error fault =>
    s.note .error ("Failed to list test cases: " ++ fault.message)
    let ended ← s.perform (finishSuite plan [] startedAt)
    return { ended with summary := ended.summary.bind fun _ => .error (listFault fault) }
  | .ok cases =>
    s.note .info ("Found " ++ toString cases.length ++ " test cases to execute")
    let results ← s.runAll plan cases schedule
    let ended ← s.perform (finishSuite plan results startedAt)
    if let .ok summary := ended.summary then
      s.note .info "========== Test Execution Completed =========="
      s.note .info ("Total: " ++ toString summary.total ++ ", Passed: " ++ toString summary.passed
        ++ ", Failed: " ++ toString summary.failed)
    return ended

/-- Runs a suite: how it ended, and what it left. -/
def runSuite (schedule : List Nat) (w : World ω) : SuiteOutcome × World ω :=
  match (s.runListed plan schedule).run w with
  | (.ok outcome, w) => (outcome, w)
  | (.error fault, w) => (⟨.error fault, none⟩, w)

end Surroundings

end KeywordSuite
