import KeywordSuite.Proofs.Case.Telling
import KeywordSuite.Proofs.Suite.Outcome

/-!
# What is told of a suite

A suite that runs its test cases one after another tells its report and its listeners exactly one
script: its beginning, one test case after the other, its end, and the summary. If the test cases
cannot be listed, the script is the same without any of them.
-/

namespace KeywordSuite

/-! ## Test cases one after another -/

section

variable {ω : Type}

/-- The tales of test cases that run one after another on the calling unit. -/
inductive Unfolds (s : Surroundings ω) (plan : SuitePlan) :
    World (Overheard ω) → List CaseDescriptor → List CaseTale → World (Overheard ω) → Prop
  | done {w} : Unfolds s plan w [] [] w
  | next {w w' w'' d t cases tales} (happens : CaseTale.Happens t s plan d .calling w w')
      (rest : Unfolds s plan w' cases tales w'') : Unfolds s plan w (d :: cases) (t :: tales) w''

/-- The scripts of test cases in order. -/
def caseScripts (listeners : Nat) : List CaseDescriptor → List CaseTale → List Telling
  | d :: cases, t :: tales => t.script d listeners ++ caseScripts listeners cases tales
  | _, _ => []

variable {s : Surroundings ω} {plan : SuitePlan}

theorem Unfolds.heard {w w' : World (Overheard ω)} {cases : List CaseDescriptor} {tales : List CaseTale}
    (h : Unfolds s plan w cases tales w') :
    w'.outer.heard = w.outer.heard ++ s.heard (caseScripts s.listeners.length cases tales) := by
  induction h with
  | done => exact (List.append_nil _).symm
  | next happens _ ih =>
    rw [ih, happens.heard, List.append_assoc, ← Surroundings.heard_append]
    rfl

variable (hs : s.overheard.Orderly) (hr : plan.registry.Uninterrupted s.overheard)
  (hq : plan.registry.Silent) (count : plan.listeners.length = s.listeners.length)
include hs hr hq count

theorem runEach_unfolds : ∀ (cases : List CaseDescriptor) (w : World (Overheard ω)), ∃ tales w',
    (s.overheard.runEach plan cases).run w = (.ok (tales.map CaseTale.result), w') ∧
      Unfolds s plan w cases tales w'
  | [], w => ⟨[], w, rfl, .done⟩
  | d :: rest, w => by
    obtain ⟨t, w₁, happens⟩ := exists_tale d hs hr hq count .calling w
    obtain ⟨tales, w', others, unfolds⟩ := runEach_unfolds rest w₁
    refine ⟨t :: tales, w', ?_, .next happens unfolds⟩
    unfold Surroundings.runEach
    rw [Act.run_bind, happens.runs]
    dsimp only
    rw [Act.run_bind, others]
    rfl

end

/-! ## The end of a suite -/

section

variable {ω α : Type} {s : Surroundings ω}

theorem heard_finishSuite {plan : SuitePlan} (hs : s.overheard.Uninterrupted)
    (count : plan.listeners.length = s.listeners.length) (results : List CaseResult) (startedAt : Timestamp)
    (w : World (Overheard ω)) :
    (ExceptT.run (Surroundings.finishSuite plan results startedAt)).Keeps s.overheard.actual w fun r w' =>
      ∃ completedAt path, r = .ok ⟨.ok (.ofResults results startedAt completedAt), path⟩ ∧
        w'.outer.heard = w.outer.heard ++ s.heard (.report .endSuite ::
          newsForAll (.finished (.ofResults results startedAt completedAt)) s.listeners.length) := by
  refine keeps_finishSuite _ (fun summary w' => w'.outer.heard = w.outer.heard ++
    s.heard (.report .endSuite :: newsForAll (.finished summary) s.listeners.length))
    (tells_tellReport hs .endSuite w) fun summary w₁ ended => ?_
  refine (tells_informAll_all hs (.finished summary) count w₁).mono ?_
  intro _ w₂ told
  obtain ⟨answered, informed⟩ := told
  refine ⟨answered, ?_⟩
  rw [informed, ended, List.append_assoc, ← Surroundings.heard_append]
  rfl

end

/-! ## The whole suite -/

section

variable {ω : Type} {s : Surroundings ω} {plan : SuitePlan}
/-- What a suite has told by the time it lists its test cases. -/
theorem heard_listingWorld (hs : s.overheard.Uninterrupted) (w : World (Overheard ω)) :
    (s.overheard.listingWorld w).outer.heard = w.outer.heard ++ s.heard [.report .beginSuite] :=
  (tells_tellReport hs .beginSuite).heard (w := s.overheard.logged .info "========== Starting Test Execution ==========" w) rfl

variable (hs : s.Orderly) (hl : s.source.listActive.Ordinarily) (hr : plan.registry.Uninterrupted s)
  (hq : plan.registry.Silent) (count : plan.listeners.length = s.listeners.length)
include hs hl hr hq count

theorem overheard_runSuite
    (sequential : ∀ cases x, (s.source.listActive.run x).1 = .ok cases → Surroundings.workerCount plan cases.length ≤ 1)
    (schedule : List Nat) (w : World (Overheard ω)) :
    ∃ outcome w', s.overheard.runSuite plan schedule w = (outcome, w') ∧
      match (s.source.listActive.run (s.overheard.listingWorld w).outer.outer).1 with
      | .ok cases => ∃ tales left startedAt completedAt,
          Unfolds s plan (s.overheard.startingWorld cases w) cases tales left ∧
          outcome.summary = .ok (.ofResults (tales.map CaseTale.result) startedAt completedAt) ∧
          w'.outer.heard = w.outer.heard ++ s.heard (.report .beginSuite ::
            caseScripts s.listeners.length cases tales ++ .report .endSuite ::
            newsForAll (.finished (.ofResults (tales.map CaseTale.result) startedAt completedAt)) s.listeners.length)
      | .error fault => ∃ startedAt completedAt, outcome.summary = .error (Surroundings.listFault fault) ∧
          w'.outer.heard = w.outer.heard ++ s.heard (.report .beginSuite :: .report .endSuite ::
            newsForAll (.finished (.ofResults [] startedAt completedAt)) s.listeners.length) := by
  have agrees := overheard_agrees s
  have seen : ∀ x : Overheard ω, ∃ y, Overheard.Beside x y := fun x => ⟨x.outer, rfl⟩
  have ht := agrees.orderly seen hs
  have htr := agrees.uninterrupted_registry seen hr
  have begun := heard_listingWorld ht.toUninterrupted w
  cases lists : (s.source.listActive.run (s.overheard.listingWorld w).outer.outer).1 with
  | error fault =>
    have ordinary : fault.isInterrupt = false := hl _ fault lists
    -- Listing is not heard, whether or not it raises.
    obtain ⟨w₁, listed, unheard⟩ : ∃ w₁, (World.zoom s.overheard.source.listActive).run (s.overheard.listingWorld w) =
        (.error fault, w₁) ∧ w₁.outer.heard = (s.overheard.listingWorld w).outer.heard := ⟨_, Prod.ext lists rfl, rfl⟩
    obtain ⟨_, w', ends, completedAt, path, rfl, heard⟩ := Surroundings.run_of_keeps
      (heard_finishSuite ht.toUninterrupted count [] (s.overheard.now w.outer)
        (s.overheard.logged .error ("Failed to list test cases: " ++ fault.message) w₁))
    refine ⟨_, w', Surroundings.runSuite_of_unlisted ht.report listed ordinary ends, s.overheard.now w.outer,
      completedAt, rfl, heard.trans ?_⟩
    show w₁.outer.heard ++ _ = _
    rw [unheard, begun, List.append_assoc, ← Surroundings.heard_append]
    rfl
  | ok cases =>
    have unheard : (s.overheard.startingWorld cases w).outer.heard = (s.overheard.listingWorld w).outer.heard := rfl
    have one_by_one : s.overheard.runAll plan cases schedule = s.overheard.runEach plan cases :=
      if_pos (sequential cases _ lists)
    obtain ⟨tales, left, runs, unfolds⟩ := runEach_unfolds ht htr hq count cases (s.overheard.startingWorld cases w)
    obtain ⟨_, w', ends, completedAt, path, rfl, heard⟩ := Surroundings.run_of_keeps
      (heard_finishSuite ht.toUninterrupted count (tales.map CaseTale.result) (s.overheard.now w.outer) left)
    rw [← one_by_one] at runs
    refine ⟨_, _, Surroundings.runSuite_of_results ht.report lists runs ends, tales, left, s.overheard.now w.outer,
      completedAt, unfolds, rfl, heard.trans ?_⟩
    rw [unfolds.heard, unheard, begun]
    simp only [List.append_assoc, ← Surroundings.heard_append]
    rfl

/--
A suite whose test cases run one after another, with keywords that tell nothing themselves, tells its
report and its listeners exactly the script of its tales, whatever telling, capturing and loading
raise. If listing raises, it tells of no test case and ends in a fault of the test definitions.
-/
theorem sequential_suite_tells
    (sequential : ∀ cases x, (s.source.listActive.run x).1 = .ok cases → Surroundings.workerCount plan cases.length ≤ 1)
    (schedule : List Nat) (w : World ω) :
    let start : World (Overheard ω) := ⟨w.sessions, ⟨w.outer, []⟩⟩
    ∃ outcome w', s.overheard.runSuite plan schedule start = (outcome, w') ∧
      s.runSuite plan schedule w = (outcome, ⟨w'.sessions, w'.outer.outer⟩) ∧
      match (s.source.listActive.run (s.overheard.listingWorld start).outer.outer).1 with
      | .ok cases => ∃ tales left startedAt completedAt,
          Unfolds s plan (s.overheard.startingWorld cases start) cases tales left ∧
          outcome.summary = .ok (.ofResults (tales.map CaseTale.result) startedAt completedAt) ∧
          w'.outer.heard = s.heard (.report .beginSuite ::
            caseScripts s.listeners.length cases tales ++ .report .endSuite ::
            newsForAll (.finished (.ofResults (tales.map CaseTale.result) startedAt completedAt)) s.listeners.length)
      | .error fault => ∃ refusal startedAt completedAt, outcome.summary = .error refusal ∧
          refusal.IsDefinition ∧ (fault.IsDefinition → refusal = fault) ∧
          w'.outer.heard = s.heard (.report .beginSuite :: .report .endSuite ::
            newsForAll (.finished (.ofResults [] startedAt completedAt)) s.listeners.length) := by
  intro start
  obtain ⟨outcome, w', suite, told⟩ := overheard_runSuite hs hl hr hq count sequential schedule start
  have beside : World.Related Overheard.Beside start w := ⟨rfl, rfl⟩
  obtain ⟨same, related⟩ := (overheard_agrees s).runSuite plan schedule beside
  rw [suite] at same related
  refine ⟨outcome, w', suite, Prod.ext same.symm (World.eq_of_related related), ?_⟩
  cases hrun : (s.source.listActive.run (s.overheard.listingWorld start).outer.outer).1 with
  | ok cases =>
    rw [hrun] at told
    exact told
  | error fault =>
    rw [hrun] at told
    obtain ⟨startedAt, completedAt, refused, heard⟩ := told
    exact ⟨_, startedAt, completedAt, refused, Surroundings.isDefinition_listFault fault,
      Surroundings.listFault_of_isDefinition, heard⟩

end

/-! ## A suite in which telling always fails -/

def Telling.method : Telling → String
  | .report call => call.method
  | .news _ told => told.method

/-- One test case; a failure is captured, but the report and the listener refuse whatever they are told. -/
def Surroundings.unwelcoming : Surroundings Unit where
  toSessionBackend := (adverse []).toSessionBackend
  now := (adverse []).now
  localNow := (adverse []).localNow
  stopwatch := (adverse []).stopwatch
  sleep := (adverse []).sleep
  source := ⟨return [{ testId := "TC1", testName := "First" }], fun _ => return [], fun _ => return [.text "refuse"]⟩
  report := (adverse []).report
  capture := .other (fun _ _ => return none) fun _ _ _ _ => return some "first.png"
  listeners := (adverse []).listeners
  outside := (adverse []).outside

theorem Surroundings.orderly_unwelcoming : unwelcoming.Orderly where
  create := (orderly_adverse []).create
  browse := (orderly_adverse []).browse
  sleep := (orderly_adverse []).sleep
  loadInput _ := Act.ordinarily_pure _
  loadKeywords _ := Act.ordinarily_pure _
  report := (orderly_adverse []).report
  capture onDemand onFailure h := by
    cases h
    exact ⟨fun _ _ => Act.ordinarily_pure _, fun _ _ _ _ => Act.ordinarily_pure _⟩
  listeners := (orderly_adverse []).listeners
  outside := (orderly_adverse []).outside
  closes := rfl
  steady _ _ _ := by
    show (0.0 : Float) ≤ 0.0 - 0.0
    decide

theorem KeywordRegistry.silent_fragile : fragile.Silent := by
  intro name e h
  obtain ⟨key, he⟩ := mem_of_resolve? h
  simp only [fragile, List.mem_cons, List.not_mem_nil, or_false, Prod.mk.injEq] at he
  rcases he with ⟨-, rfl⟩ | ⟨-, rfl⟩
  · intro id c
    dsimp only
    rw [meets_keyword_bind, meets_keyword_perform, KeywordOp.serve, meets_modify]
    dsimp only
    rw [meets_keyword_bind, meets_keyword_perform]
    refine (silent_contextFail "broken" _).mono ?_
    intro r _ _ _
    cases r <;> exact trivial
  · exact fun id c => trivial

theorem sequential_suite_tells_unwelcoming :
    let plan : SuitePlan := ⟨.fragile, [], ["Mail"], 4⟩
    ∃ outcome w', Surroundings.unwelcoming.overheard.runSuite plan [] ⟨.empty, ⟨(), []⟩⟩ = (outcome, w') ∧
      Surroundings.unwelcoming.runSuite plan [] ⟨.empty, ()⟩ = (outcome, ⟨w'.sessions, w'.outer.outer⟩) ∧
      w'.outer.heard.map Telling.method = ["begin_suite", "begin_case", "log_info", "log_fail",
        "attach_artifact", "mark_case_failed", "add_result", "end_suite", "on_suite_finished"] := by
  intro plan
  have registry : plan.registry.Uninterrupted Surroundings.unwelcoming := KeywordRegistry.uninterrupted_fragile _
  have silent : plan.registry.Silent := KeywordRegistry.silent_fragile
  obtain ⟨outcome, w', overheard, plain, -⟩ := sequential_suite_tells Surroundings.orderly_unwelcoming
    (Act.ordinarily_pure _) registry silent rfl (fun cases x h => by cases h; decide) [] ⟨.empty, ()⟩
  refine ⟨outcome, w', overheard, plain, ?_⟩
  have left := congrArg (fun run => run.2.outer.heard.map Telling.method) overheard
  exact left.symm.trans (by decide +kernel)

end KeywordSuite
