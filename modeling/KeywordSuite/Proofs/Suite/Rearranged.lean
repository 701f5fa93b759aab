import KeywordSuite.Proofs.Case.Lookups
import KeywordSuite.Proofs.Suite.Agreement

/-!
# Suites whose definitions are loaded in another order

Where a source of definitions rearranges the input of test cases or leaves blanks among their keywords, a suite
of keywords that load nothing themselves takes the same course: turn by turn the same operations, to the same end.
-/

namespace KeywordSuite

variable {ω α : Type} {h : (op : SharedOp) → op.Reply → op.Reply}

/-- The same definitions, with what is loaded of a test case rearranged. -/
def DefinitionSource.mapReplies (h : (op : SharedOp) → op.Reply → op.Reply) (source : DefinitionSource ω) :
    DefinitionSource ω where
  listActive := source.listActive
  loadInput testId := do return h (.loadInput testId) (← source.loadInput testId)
  loadKeywords testId := do return h (.loadKeywords testId) (← source.loadKeywords testId)

namespace Surroundings

/-- The same surroundings with another source of definitions. -/
def reading (s : Surroundings ω) (source : DefinitionSource ω) : Surroundings ω := { s with source }

def rearranged (h : (op : SharedOp) → op.Reply → op.Reply) (s : Surroundings ω) : Surroundings ω :=
  s.reading (s.source.mapReplies h)

end Surroundings

theorem Act.run_map {σ β : Type} (f : α → β) (act : Act σ α) (x : σ) :
    (do return f (← act) : Act σ β).run x = ((act.run x).1.map f, (act.run x).2) := by
  rw [Act.run_bind]
  rcases act.run x with ⟨_ | _, _⟩ <;> rfl

section

variable {s : Surroundings ω} (rearranges : Rearranges h)
include rearranges

theorem handle_rearranged (op : SharedOp) (w : World ω) :
    ((s.rearranged h).handle op).run w = (((s.handle op).run w).1.map (h op), ((s.handle op).run w).2) := by
  have loads : ∀ {β : Type} (f : β → β) (act : Act ω β),
      (World.zoom (do return f (← act))).run w = (((World.zoom act).run w).1.map f, ((World.zoom act).run w).2) := by
    intro β f act
    rw [World.run_zoom, Act.run_map]
    rfl
  have others : h op = id → (s.rearranged h).handle op = s.handle op →
      ((s.rearranged h).handle op).run w = (((s.handle op).run w).1.map (h op), ((s.handle op).run w).2) := by
    intro plain same
    rw [plain, same]
    rcases (s.handle op).run w with ⟨_ | _, _⟩ <;> rfl
  cases op with
  | loadInput testId => exact loads _ _
  | loadKeywords testId => exact loads _ _
  | _ => exact others (rearranges.plain _ rfl) rfl

theorem run_rearranged (p : Program SharedOp.Reply α) :
    ∀ w, p.run (s.rearranged h).handle w = (p.mapReplies h).run s.handle w := by
  induction p with
  | done a => exact fun _ => rfl
  | call op resume ih =>
    intro w
    unfold Program.mapReplies Program.run
    rw [handle_rearranged rearranges]
    exact ih _ _

theorem perform_rearranged {p : SharedProcedure α} (same : (ExceptT.run p).mapReplies h = ExceptT.run p) :
    (s.rearranged h).perform p = s.perform p := by
  refine funext fun w => ?_
  have run := run_rearranged rearranges (s := s) (ExceptT.run p) w
  rw [same] at run
  exact run

theorem mapReplies_of_loadsNothing {p : SharedProcedure α} (hp : p.LoadsNothing) :
    (ExceptT.run p).mapReplies h = ExceptT.run p :=
  (inStep_of_only (Program.Only.mono rearranges.plain hp)).eq_mapReplies.symm

end

/-! ## Pools -/

/-- A pool whose workers hear what they load rearranged. -/
def Pool.mapReplies (h : (op : SharedOp) → op.Reply → op.Reply) (p : Pool) : Pool :=
  { p with workers := p.workers.map (Option.map fun x => { x with rest := x.rest.mapReplies h }) }

section

variable {s : Surroundings ω} {plan : SuitePlan} (rearranges : Rearranges h) (hr : plan.registry.LoadsNothing)
include rearranges

theorem finishRunning_rearranged : ∀ (workers : List (Option Running)) (w : World ω),
    Pool.finishRunning (s.rearranged h) workers w =
      Pool.finishRunning s (workers.map (Option.map fun x => { x with rest := x.rest.mapReplies h })) w
  | [], _ => rfl
  | none :: rest, w => finishRunning_rearranged rest w
  | some x :: rest, w => by
    rw [List.map_cons, Option.map_some]
    unfold Pool.finishRunning
    rw [run_rearranged rearranges]
    dsimp only
    rw [finishRunning_rearranged rest]

include hr

theorem Pool.step_rearranged (p : Pool) (worker : Nat) (w : World ω) :
    (p.mapReplies h).step s plan worker w =
      ((p.step (s.rearranged h) plan worker w).1.mapReplies h, (p.step (s.rearranged h) plan worker w).2) := by
  -- filling a seat and putting the answers in another order can be done one after the other either way
  have set : ∀ x, (p.mapReplies h).workers.set worker (x.map fun x => { x with rest := x.rest.mapReplies h }) =
      (p.workers.set worker x).map (Option.map fun x => { x with rest := x.rest.mapReplies h }) :=
    fun x => (List.map_set ..).symm
  have seat : (p.mapReplies h).workers[worker]? =
      p.workers[worker]?.map (Option.map fun x => { x with rest := x.rest.mapReplies h }) := List.getElem?_map ..
  unfold Pool.step
  rw [seat]
  cases p.workers[worker]? with
  | none => rfl
  | some doing =>
    cases doing with
    | none =>
      dsimp only [Option.map_some, Option.map_none]
      have waits : (p.mapReplies h).waiting = p.waiting := rfl
      rw [waits]
      cases p.waiting with
      | nil => rfl
      | cons next waiting =>
        obtain ⟨place, d⟩ := next
        have begins := set (some ⟨place, Pool.program plan d (.worker worker)⟩)
        have same : (Pool.program plan d (.worker worker)).mapReplies h = Pool.program plan d (.worker worker) :=
          mapReplies_program rearranges d hr _
        rw [Option.map_some, same] at begins
        dsimp only
        rw [begins]
        rfl
    | some x =>
      obtain ⟨place, rest⟩ := x
      cases rest with
      | done r =>
        have ends := set none
        rw [Option.map_none] at ends
        dsimp only [Option.map_some, Program.mapReplies]
        rw [ends]
        rfl
      | call op resume =>
        have goes := set (some ⟨place, resume (((s.handle op).run w).1.map (h op))⟩)
        rw [Option.map_some] at goes
        dsimp only [Option.map_some, Program.mapReplies]
        rw [handle_rearranged rearranges, goes]
        rfl

theorem finishWaiting_rearranged : ∀ (waiting : List (Nat × CaseDescriptor)) (w : World ω),
    Pool.finishWaiting (s.rearranged h) plan waiting w = Pool.finishWaiting s plan waiting w
  | [], _ => rfl
  | (place, d) :: rest, w => by
    have same : (Pool.program plan d (.worker 0)).mapReplies h = Pool.program plan d (.worker 0) :=
      mapReplies_program rearranges d hr _
    unfold Pool.finishWaiting
    rw [run_rearranged rearranges, same]
    dsimp only
    rw [finishWaiting_rearranged rest]

theorem schedule_rearranged : ∀ (turns : List Nat) (p : Pool) (w : World ω),
    turns.foldl (fun (p, w) worker => p.step s plan worker w) (p.mapReplies h, w) =
      let after := turns.foldl (fun (p, w) worker => p.step (s.rearranged h) plan worker w) (p, w)
      (after.1.mapReplies h, after.2)
  | [], _, _ => rfl
  | worker :: turns, p, w => by
    rw [List.foldl_cons, List.foldl_cons]
    dsimp only
    rw [Pool.step_rearranged rearranges hr]
    exact schedule_rearranged turns _ _

theorem outcomes_rearranged (cases : List CaseDescriptor) (workers : Nat) (schedule : List Nat) (w : World ω) :
    Pool.outcomes (s.rearranged h) plan cases workers schedule w = Pool.outcomes s plan cases workers schedule w := by
  have start : (Pool.start cases workers).mapReplies h = Pool.start cases workers := by
    unfold Pool.mapReplies Pool.start
    rw [List.map_replicate]
    rfl
  have turns := schedule_rearranged (s := s) rearranges hr schedule (Pool.start cases workers) w
  rw [start] at turns
  unfold Pool.outcomes
  rw [turns]
  dsimp only
  rw [finishRunning_rearranged rearranges, finishWaiting_rearranged rearranges hr]
  rfl

/-! ## The whole suite -/

theorem runEach_rearranged : ∀ cases, (s.rearranged h).runEach plan cases = s.runEach plan cases
  | [] => rfl
  | d :: rest => by
    unfold Surroundings.runEach
    rw [perform_rearranged rearranges (mapReplies_program rearranges d hr _), runEach_rearranged rest]

theorem runAll_rearranged (cases : List CaseDescriptor) (schedule : List Nat) :
    (s.rearranged h).runAll plan cases schedule = s.runAll plan cases schedule := by
  have pools : ∀ workers, (s.rearranged h).runPool plan cases workers schedule = s.runPool plan cases workers schedule := by
    intro workers
    unfold Surroundings.runPool
    simp only [outcomes_rearranged rearranges hr]
  unfold Surroundings.runAll
  simp only [runEach_rearranged rearranges hr, pools]
  rfl

omit rearranges hr in
theorem loadsNothing_finishSuite (plan : SuitePlan) (results : List CaseResult) (startedAt : Timestamp) :
    (Surroundings.finishSuite plan results startedAt).LoadsNothing := by
  refine (SharedProcedure.loadsNothing_tellReport _).bind fun path => ?_
  have reads : SharedProcedure.LoadsNothing (.perform .now) := SharedProcedure.loadsNothing_perform rfl
  refine reads.bind fun completedAt => ?_
  refine (SharedProcedure.loadsNothing_informAll (.finished _) plan.listeners 0).outcome.bind fun informed => ?_
  exact Procedure.only_pure _

/--
However a source rearranges the input of test cases and leaves blanks among their keywords, a suite of keywords
that load nothing themselves ends the same on every schedule, and leaves the same world.
-/
theorem runSuite_rearranged (schedule : List Nat) (w : World ω) :
    (s.rearranged h).runSuite plan schedule w = s.runSuite plan schedule w := by
  have begins := perform_rearranged (s := s) rearranges
    (mapReplies_of_loadsNothing rearranges (SharedProcedure.loadsNothing_tellReport .beginSuite))
  have ends : ∀ results startedAt, (s.rearranged h).perform (Surroundings.finishSuite plan results startedAt) =
      s.perform (Surroundings.finishSuite plan results startedAt) := fun _ _ =>
    perform_rearranged rearranges (mapReplies_of_loadsNothing rearranges (loadsNothing_finishSuite _ _ _))
  have lists : (s.rearranged h).runListed plan schedule = s.runListed plan schedule := by
    unfold Surroundings.runListed
    simp only [begins, ends, runAll_rearranged rearranges hr]
    rfl
  unfold Surroundings.runSuite
  rw [lists]

end

end KeywordSuite
