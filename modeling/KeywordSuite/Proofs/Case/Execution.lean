import KeywordSuite.Proofs.Case.Result

/-!
# How a test case is executed

The ways in which executing a test case can go, as relations between the state and the world before it and those it
leaves: `Steps` for the loop over the keywords, one constructor for what becomes of an entry, and `Executes` for
loading the definitions and the loop. Every execution goes in one of these ways, so what holds of an execution is
shown by induction over the relations, without its procedures.
-/

namespace KeywordSuite

namespace CaseState

def given (st : CaseState) (data : Entries Value) : CaseState := { st with context := st.context.setInput data }

def failing (st : CaseState) (reason : String) : CaseState := { st with context := st.context.fail reason }

/-- A state when the keywords came to an end: a fault of theirs is a reason of failure. -/
def ended (st : CaseState) : Except Fault Unit → CaseState
  | .ok () => st
  | .error fault => st.failing ("Exception: " ++ fault.message)

end CaseState

namespace CaseDescriptor

section

variable {ω : Type} (s : Surroundings ω) (d : CaseDescriptor) (registry : KeywordRegistry)

/-! ## The loop over the keywords -/

def announcement (keyword : String) : SharedProcedure (Option String) :=
  tellReport (.log .info d.testId d.testName ("Executing keyword: " ++ keyword))

/--
A keyword is announced to the report, dispatched, and its record told to the report; the dispatch leads from one
context and world to the others.
-/
structure Dispatched (keyword : String) (w : World ω) (c : Context) (w₁ : World ω) (e : KeywordExecution) (c' : Context)
    (w₂ w' : World ω) : Prop where
  announces : ∃ answer, (s.perform (d.announcement keyword)).run w = (.ok answer, w₁)
  runs : ((registry.dispatch (some keyword)).run c).run s.handle w₁ = ((.ok e, c'), w₂)
  reports : (s.perform (d.reportExecution e)).run w₂ = (.ok (), w')

/-- The ways through the entries of a sequence, from a state and a world to an outcome and what is left. -/
inductive Steps : List Value → CaseState → World ω → Except Fault Unit → CaseState → World ω → Prop
  | done {st : CaseState} {w : World ω} : Steps [] st w (.ok ()) st w
  | skip {v : Value} {rest : List Value} {st st' : CaseState} {w w' : World ω} {r : Except Fault Unit}
      (blank : keywordText v = .ok none) (others : Steps rest st w r st' w') : Steps (v :: rest) st w r st' w'
  | refuse {v : Value} {rest : List Value} {st : CaseState} {w : World ω} {fault : Fault}
      (textless : keywordText v = .error fault) : Steps (v :: rest) st w (.error fault) st w
  | raise {v : Value} {rest : List Value} {st : CaseState} {w w₁ w₂ : World ω} {keyword : String} {fault : Fault}
      {c : Context} (named : keywordText v = .ok (some keyword))
      (raises : ((registry.dispatch (some keyword)).run st.context).run s.handle w₁ = ((.error fault, c), w₂)) :
      Steps (v :: rest) st w (.error fault) { st with context := c } w₂
  | stop {v : Value} {rest : List Value} {st : CaseState} {w w₁ w₂ w₃ : World ω} {keyword : String}
      {e : KeywordExecution} {c : Context} (named : keywordText v = .ok (some keyword))
      (dispatched : d.Dispatched s registry keyword w st.context w₁ e c w₂ w₃)
      (stops : e.succeeded = false ∧ c.passed = false) :
      Steps (v :: rest) st w (.ok ()) ⟨c, st.executions ++ [e]⟩
        (s.logged .error ("Stopping test execution due to keyword failure: " ++ keyword) w₃)
  | next {v : Value} {rest : List Value} {st st' : CaseState} {w w₁ w₂ w₃ w' : World ω} {keyword : String}
      {e : KeywordExecution} {c : Context} {r : Except Fault Unit} (named : keywordText v = .ok (some keyword))
      (dispatched : d.Dispatched s registry keyword w st.context w₁ e c w₂ w₃)
      (goes_on : ¬ (e.succeeded = false ∧ c.passed = false))
      (others : Steps rest ⟨c, st.executions ++ [e]⟩ w₃ r st' w') : Steps (v :: rest) st w r st' w'

/-! ## Loading and the loop -/

/-- The ways to execute a test case: a definition cannot be loaded, nothing is listed, or the loop is gone through. -/
inductive Executes (st : CaseState) (w : World ω) : Except Fault Unit → CaseState → World ω → Prop
  | inputFault {fault : Fault} {w₁ : World ω} (input : (s.handle (.loadInput d.testId)).run w = (.error fault, w₁)) :
      Executes st w (.error fault) st w₁
  | sequenceFault {data : Entries Value} {fault : Fault} {w₁ w₂ : World ω}
      (input : (s.handle (.loadInput d.testId)).run w = (.ok data, w₁))
      (keywords : (s.handle (.loadKeywords d.testId)).run w₁ = (.error fault, w₂)) :
      Executes st w (.error fault) (st.given data) w₂
  | nothing {data : Entries Value} {w₁ w₂ : World ω} (input : (s.handle (.loadInput d.testId)).run w = (.ok data, w₁))
      (keywords : (s.handle (.loadKeywords d.testId)).run w₁ = (.ok [], w₂)) :
      Executes st w (.ok ()) ((st.given data).failing ("No keywords found for test ID: " ++ d.testId))
        (s.logged .error ("Test failed: " ++ ("No keywords found for test ID: " ++ d.testId)) w₂)
  | steps {data : Entries Value} {sequence : List Value} {w₁ w₂ : World ω} {r : Except Fault Unit} {st' : CaseState}
      {w' : World ω} (input : (s.handle (.loadInput d.testId)).run w = (.ok data, w₁))
      (keywords : (s.handle (.loadKeywords d.testId)).run w₁ = (.ok sequence, w₂)) (listed : sequence ≠ [])
      (steps : d.Steps s registry sequence (st.given data) w₂ r st' w') : Executes st w r st' w'

/-- The world after the keywords came to an end: a fault of theirs is logged. -/
def endedIn (w : World ω) : Except Fault Unit → World ω
  | .ok () => w
  | .error fault => s.logged .error ("Test failed: " ++ ("Exception: " ++ fault.message))
      (s.logged .error ("Exception in test case " ++ d.testId ++ ": " ++ fault.message) w)

end

/-! ## Every execution goes in one of these ways -/

variable {ω : Type} {s : Surroundings ω} {d : CaseDescriptor} {registry : KeywordRegistry} {st : CaseState} {w : World ω}

theorem meets_runKeywords_steps (hs : s.Uninterrupted) : ∀ (sequence : List Value) (st : CaseState) (w : World ω),
    Meets s.actual (d.runKeywords registry sequence) st w (d.Steps s registry sequence st w)
  | [], _, _ => .done
  | v :: rest, st, w => by
    unfold runKeywords
    rw [meets_bind, meets_ofExcept]
    cases text : keywordText v with
    | error fault => exact .refuse text
    | ok found =>
      cases found with
      | none => exact (meets_runKeywords_steps hs rest st w).mono fun _ _ _ others => .skip text others
      | some keyword =>
        dsimp only
        rw [meets_bind]
        refine (Surroundings.meets_answers (Surroundings.answers_tellReport hs.report _)).mono ?_
        intro _ st w₁ told
        obtain ⟨⟨answer, rfl, announces⟩, rfl, -⟩ := told
        dsimp only
        rw [meets_bind, meets_onContext]
        -- of a dispatch only how it runs is kept, for whoever needs more of it
        have dispatches : Meets s.actual (registry.dispatch (some keyword)) st.context w₁ fun r c w₂ =>
            ((registry.dispatch (some keyword)).run st.context).run s.handle w₁ = ((r, c), w₂) :=
          (Surroundings.keeps_actual _ _ _).2 rfl
        refine dispatches.mono ?_
        intro r c w₂ runs
        cases r with
        | error fault => exact .raise text runs
        | ok e =>
          dsimp only
          rw [meets_bind, meets_modify]
          dsimp only
          rw [meets_bind]
          refine (Surroundings.meets_answers (Surroundings.answers_reportExecution hs d e)).mono ?_
          intro _ _ w₃ told
          obtain ⟨⟨_, rfl, reports⟩, rfl, -⟩ := told
          have dispatched : d.Dispatched s registry keyword w st.context w₁ e c w₂ w₃ :=
            ⟨⟨answer, announces⟩, runs, reports⟩
          dsimp only
          rw [meets_bind, meets_get]
          dsimp only
          split
          · rename_i stops
            rw [meets_caseLog]
            exact .stop text dispatched (by simpa using stops)
          · rename_i goes_on
            exact (meets_runKeywords_steps hs rest _ w₃).mono fun _ _ _ others =>
              .next text dispatched (by simpa using goes_on) others

theorem meets_execute_executes (hs : s.Uninterrupted) :
    Meets s.actual (d.execute registry) st w (d.Executes s registry st w) := by
  unfold execute
  rw [meets_bind, meets_casePerform]
  cases input : (s.handle (.loadInput d.testId)).run w with
  | mk loaded w₁ =>
    cases loaded with
    | error fault => exact .inputFault input
    | ok data =>
      dsimp only
      rw [meets_bind, meets_modify]
      dsimp only
      rw [meets_bind, meets_casePerform]
      cases keywords : (s.handle (.loadKeywords d.testId)).run w₁ with
      | mk loaded w₂ =>
        cases loaded with
        | error fault => exact .sequenceFault input keywords
        | ok sequence =>
          cases sequence with
          | nil =>
            dsimp only
            rw [meets_caseFail]
            exact .nothing input keywords
          | cons v rest =>
            exact (meets_runKeywords_steps hs (v :: rest) (st.given data) w₂).mono fun _ _ _ steps =>
              .steps input keywords (List.cons_ne_nil v rest) steps

/-- Attempting the keywords always goes on; a fault that ended their execution is logged, and a reason of failure. -/
theorem meets_attemptKeywords_of {K : Except Fault Unit → CaseState → World ω → Prop}
    (executes : Meets s.actual (d.execute registry) st w fun r st' w' => Ordinary r ∧ K r st' w') :
    Meets s.actual (d.attemptKeywords registry) st w fun r st' w' =>
      r = .ok () ∧ ∃ outcome left w₁, K outcome left w₁ ∧ st' = left.ended outcome ∧ w' = d.endedIn s w₁ outcome := by
  unfold attemptKeywords
  rw [meets_bind, meets_caseAttempt]
  refine executes.mono ?_
  intro outcome left w' told
  obtain ⟨ordinary, holds⟩ := told
  rw [settled_of_ordinary ordinary]
  cases outcome with
  | ok _ => exact ⟨rfl, .ok (), left, w', holds, rfl, rfl⟩
  | error fault =>
    dsimp only
    rw [meets_bind, meets_caseLog]
    dsimp only
    rw [meets_caseFail]
    exact ⟨rfl, .error fault, left, w', holds, rfl, rfl⟩

end CaseDescriptor

end KeywordSuite
