import KeywordSuite.Proofs.Case.Completion
import KeywordSuite.Suite.Run

/-!
# How a suite ends

The outcome of a suite, where its test cases cannot be listed, where running them is stopped, and where each
of them comes to a result.
-/

namespace KeywordSuite

/-! ## Test cases that cannot be listed -/

def Fault.IsDefinition : Fault → Prop
  | .suite (.definition ..) .. => True
  | _ => False

theorem Surroundings.isDefinition_listFault (fault : Fault) : (listFault fault).IsDefinition := by
  unfold listFault
  split <;> exact trivial

theorem Surroundings.listFault_of_isDefinition {fault : Fault} (h : fault.IsDefinition) :
    listFault fault = fault := by
  unfold listFault
  split
  · rfl
  · rename_i other
    unfold Fault.IsDefinition at h
    split at h
    · exact absurd rfl (other _ _ _ _ _ _)
    · exact h.elim

/-! ## The end of a suite -/

variable {ω : Type} {s : Surroundings ω} {plan : SuitePlan}

/-- A suite sums up what it was given: `ended` holds once the report is ended, `informed` after it is told. -/
theorem keeps_finishSuite {results : List CaseResult} {startedAt : Timestamp} {w : World ω}
    (ended : World ω → Prop) (informed : SuiteSummary → World ω → Prop)
    (report : (ExceptT.run (KeywordSuite.tellReport .endSuite)).Keeps s.actual w fun r w₁ =>
      (∃ path, r = .ok path) ∧ ended w₁)
    (listeners : ∀ summary w₁, ended w₁ →
      (ExceptT.run (informAll (.finished summary) 0 plan.listeners)).Keeps s.actual w₁ fun r w' =>
        (∃ a, r = .ok a) ∧ informed summary w') :
    (ExceptT.run (Surroundings.finishSuite plan results startedAt)).Keeps s.actual w fun r w' =>
      ∃ completedAt path, r = .ok ⟨.ok (.ofResults results startedAt completedAt), path⟩ ∧
        informed (.ofResults results startedAt completedAt) w' := by
  unfold Surroundings.finishSuite
  rw [keeps_seq]
  refine report.mono ?_
  intro _ w₁ told
  obtain ⟨⟨path, rfl⟩, ended⟩ := told
  dsimp only
  rw [keeps_seq, keeps_perform]
  refine ⟨w₁, rfl, ?_⟩
  intro _ answered
  have clock : (s.handle .now).run w₁ = (.ok (s.now w₁.outer), w₁) := rfl
  obtain rfl := answered.trans (congrArg Prod.fst clock)
  dsimp only
  rw [keeps_seq, keeps_outcome]
  refine (listeners (.ofResults results startedAt (s.now w₁.outer)) w₁ ended).mono ?_
  intro _ w₂ told
  obtain ⟨⟨_, rfl⟩, informed⟩ := told
  exact ⟨s.now w₁.outer, path, rfl, informed⟩

section

variable (plan) (hr : ∀ tell, s.report = some tell → ∀ call, (tell call).Ordinarily)
  (hl : ∀ l ∈ s.listeners, ∀ news, (l.tell news).Ordinarily)
include hr hl

theorem run_finishSuite (results : List CaseResult) (startedAt : Timestamp) (w : World ω) :
    ∃ completedAt path w', (s.perform (Surroundings.finishSuite plan results startedAt)).run w =
      (.ok ⟨.ok (.ofResults results startedAt completedAt), path⟩, w') := by
  have sums : (ExceptT.run (Surroundings.finishSuite plan results startedAt)).Keeps s.actual w fun r _ =>
      ∃ completedAt path, r = .ok ⟨.ok (.ofResults results startedAt completedAt), path⟩ ∧ True := by
    refine keeps_finishSuite (fun _ => True) (fun _ _ => True) ?_ fun summary w₁ _ => ?_
    · exact (Surroundings.answers_tellReport hr .endSuite w).mono fun _ _ told => ⟨told, trivial⟩
    · exact (Surroundings.answers_informAll hl (.finished summary) 0 plan.listeners w₁).mono
        fun _ _ told => ⟨told, trivial⟩
  obtain ⟨_, w', runs, completedAt, path, rfl, -⟩ := Surroundings.run_of_keeps sums
  exact ⟨completedAt, path, w', runs⟩

end

/-! ## The whole of it -/

namespace Surroundings

variable (s) in
/-- The world in which a suite lists its test cases. -/
def listingWorld (w : World ω) : World ω :=
  ((s.perform (KeywordSuite.tellReport .beginSuite)).run
    (s.logged .info "========== Starting Test Execution ==========" w)).2

variable (s) in
/-- The world in which the test cases that were listed begin. -/
def startingWorld (cases : List CaseDescriptor) (w : World ω) : World ω :=
  s.logged .info ("Found " ++ toString cases.length ++ " test cases to execute")
    ((World.zoom s.source.listActive).run (s.listingWorld w)).2

variable (s) in
/-- The world that a suite leaves which has come to a summary. -/
def afterSummary (summary : SuiteSummary) (w : World ω) : World ω :=
  s.logged .info ("Total: " ++ toString summary.total ++ ", Passed: " ++ toString summary.passed ++ ", Failed: " ++
    toString summary.failed) (s.logged .info "========== Test Execution Completed ==========" w)

variable (s) in
/-- The world that a suite leaves which has ended. -/
def afterEnded (ended : SuiteOutcome) (w : World ω) : World ω :=
  match ended.summary with
  | .ok summary => s.afterSummary summary w
  | .error _ => w

theorem run_readClock {α : Type} (clock : ω → α) (w : World ω) : (readClock clock).run w = (.ok (clock w.outer), w) := rfl

theorem run_note (level : LogLevel) (message : String) (w : World ω) :
    (s.note level message).run w = (.ok (), s.logged level message w) := rfl

/-- What the report answers is what telling it comes to. -/
theorem run_tellReport {call : ReportCall} {answer : Option String} {w w' : World ω}
    (told : (s.tellReport call).run w = (.ok answer, w')) :
    (s.perform (KeywordSuite.tellReport call)).run w = (.ok answer, w') := by
  have keeps : (ExceptT.run (KeywordSuite.tellReport call)).Keeps s.actual w fun r w₁ => r = .ok answer ∧ w₁ = w' := by
    unfold KeywordSuite.tellReport
    rw [keeps_seq, keeps_attempt, keeps_perform]
    refine ⟨w, rfl, fun reply same => ?_⟩
    obtain rfl : reply = .ok answer := same.trans (congrArg Prod.fst told)
    exact ⟨rfl, congrArg Prod.snd told⟩
  obtain ⟨_, _, runs, rfl, rfl⟩ := run_of_keeps keeps
  exact runs

/-- Where the report can be ended, a suite ends with its path, and if it comes to a summary, with that of its results. -/
theorem run_finishSuite_of_told (plan : SuitePlan) (results : List CaseResult) (startedAt : Timestamp) {path : Option String}
    {w w₁ : World ω} (told : (s.tellReport .endSuite).run w = (.ok path, w₁)) : ∃ ended w',
    (s.perform (finishSuite plan results startedAt)).run w = (.ok ended, w') ∧ ended.reportPath = path ∧
      ∀ summary, ended.summary = .ok summary → ∃ completedAt, summary = .ofResults results startedAt completedAt := by
  have keeps : (ExceptT.run (finishSuite plan results startedAt)).Keeps s.actual w fun r _ => ∃ ended, r = .ok ended ∧
      ended.reportPath = path ∧
      ∀ summary, ended.summary = .ok summary → ∃ completedAt, summary = .ofResults results startedAt completedAt := by
    unfold finishSuite
    refine keeps_seq.2 ((keeps_actual _ w _).2 ?_)
    have tells : (ExceptT.run (KeywordSuite.tellReport .endSuite)).run s.handle w = (.ok path, w₁) := run_tellReport told
    rw [tells]
    dsimp only
    refine keeps_seq.2 (keeps_perform.2 ⟨w₁, rfl, fun reply same => ?_⟩)
    obtain rfl : reply = .ok (s.now w₁.outer) := same
    refine keeps_seq.2 (keeps_outcome.2 ((keeps_actual _ _ _).2 ?_))
    refine ⟨_, rfl, rfl, fun summary same => ?_⟩
    generalize ((ExceptT.run (informAll _ _ _)).run s.handle _).1 = informed at same
    cases informed with
    | error fault => cases same
    | ok _ =>
      cases same
      exact ⟨_, rfl⟩
  obtain ⟨_, w', runs, ended, rfl, path, sums⟩ := run_of_keeps keeps
  exact ⟨ended, w', runs, path, sums⟩

variable (hr : ∀ tell, s.report = some tell → ∀ call, (tell call).Ordinarily) {w : World ω} {schedule : List Nat}
include hr

theorem run_beginSuite (w : World ω) : ∃ answer, (s.perform (KeywordSuite.tellReport .beginSuite)).run
    (s.logged .info "========== Starting Test Execution ==========" w) = (.ok answer, s.listingWorld w) := by
  obtain ⟨_, w₁, begins, answer, rfl⟩ := run_of_keeps (answers_tellReport hr .beginSuite
    (s.logged .info "========== Starting Test Execution ==========" w))
  refine ⟨answer, begins.trans ?_⟩
  unfold listingWorld
  rw [begins]

theorem runSuite_of_unlisted {fault : Fault} {w₁ w₂ : World ω} {summary : SuiteSummary} {path : Option String}
    (lists : (World.zoom s.source.listActive).run (s.listingWorld w) = (.error fault, w₁))
    (ordinary : fault.isInterrupt = false)
    (ends : (s.perform (finishSuite plan [] (s.now w.outer))).run
      (s.logged .error ("Failed to list test cases: " ++ fault.message) w₁) = (.ok ⟨.ok summary, path⟩, w₂)) :
    s.runSuite plan schedule w = (⟨.error (listFault fault), path⟩, w₂) := by
  have settles : settled (.error fault : Except Fault (List CaseDescriptor)) = .ok (.error fault) :=
    settled_of_ordinary (faulty_error ordinary)
  obtain ⟨answer, begins⟩ := run_beginSuite hr w
  unfold runSuite runListed
  simp only [Act.run_bind, run_readClock, run_note, begins, Act.run_attempt, lists, settles, ends]
  rfl

theorem runSuite_of_stopped {cases : List CaseDescriptor} {fault : Fault} {w₁ : World ω}
    (lists : (s.source.listActive.run (s.listingWorld w).outer).1 = .ok cases)
    (stops : (s.runAll plan cases schedule).run (s.startingWorld cases w) = (.error fault, w₁)) :
    s.runSuite plan schedule w = (⟨.error fault, none⟩, w₁) := by
  obtain ⟨w₀, listed⟩ : ∃ w₀, (World.zoom s.source.listActive).run (s.listingWorld w) = (.ok cases, w₀) :=
    ⟨_, Prod.ext lists rfl⟩
  obtain ⟨answer, begins⟩ := run_beginSuite hr w
  unfold startingWorld at stops
  unfold runSuite runListed
  rw [listed] at stops
  simp only [Act.run_bind, run_readClock, run_note, begins, Act.run_attempt, listed, settled, stops]

theorem runSuite_of_ended {cases : List CaseDescriptor} {results : List CaseResult} {w₁ w₂ : World ω} {ended : SuiteOutcome}
    (lists : (s.source.listActive.run (s.listingWorld w).outer).1 = .ok cases)
    (runs : (s.runAll plan cases schedule).run (s.startingWorld cases w) = (.ok results, w₁))
    (ends : (s.perform (finishSuite plan results (s.now w.outer))).run w₁ = (.ok ended, w₂)) :
    s.runSuite plan schedule w = (ended, s.afterEnded ended w₂) := by
  obtain ⟨w₀, listed⟩ : ∃ w₀, (World.zoom s.source.listActive).run (s.listingWorld w) = (.ok cases, w₀) :=
    ⟨_, Prod.ext lists rfl⟩
  obtain ⟨answer, begins⟩ := run_beginSuite hr w
  unfold startingWorld at runs
  unfold runSuite runListed
  rw [listed] at runs
  simp only [Act.run_bind, run_readClock, run_note, begins, Act.run_attempt, listed, settled, runs, ends]
  obtain ⟨summary, path⟩ := ended
  cases summary <;> rfl

theorem runSuite_of_results {cases : List CaseDescriptor} {results : List CaseResult} {w₁ w₂ : World ω}
    {summary : SuiteSummary} {path : Option String}
    (lists : (s.source.listActive.run (s.listingWorld w).outer).1 = .ok cases)
    (runs : (s.runAll plan cases schedule).run (s.startingWorld cases w) = (.ok results, w₁))
    (ends : (s.perform (finishSuite plan results (s.now w.outer))).run w₁ = (.ok ⟨.ok summary, path⟩, w₂)) :
    s.runSuite plan schedule w = (⟨.ok summary, path⟩, s.afterSummary summary w₂) :=
  runSuite_of_ended hr lists runs ends

end Surroundings

end KeywordSuite
