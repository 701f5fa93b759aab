import KeywordSuite.Proofs.Case.Story

/-!
# Invariants of the keywords of a test case

What holds of a test case before its keywords, and is kept by each of their dispatches, is known of the state they
leave, and so of the result. Nothing is asked of the entries that a source lists: one without a text ends the sequence
with a fault.
-/

namespace KeywordSuite

variable {ω : Type} {s : Surroundings ω} {d : CaseDescriptor} {registry : KeywordRegistry}

/-! ## The loop -/

variable (s registry) in
/-- An invariant of the entries still to come and of the state, and what it comes to when the loop ends. -/
structure Carries (I : List Value → CaseState → Prop) (J : Except Fault Unit → CaseState → Prop) : Prop where
  ends : ∀ {st}, I [] st → J (.ok ()) st
  skips : ∀ {v rest st}, CaseDescriptor.keywordText v = .ok none → I (v :: rest) st → I rest st
  breaks : ∀ {v rest st fault}, CaseDescriptor.keywordText v = .error fault → I (v :: rest) st → J (.error fault) st
  dispatches : ∀ {v rest st keyword}, CaseDescriptor.keywordText v = .ok (some keyword) → I (v :: rest) st →
    ∀ w, Meets s.actual (registry.dispatch (some keyword)) st.context w fun r c _ => ∃ e, r = .ok e ∧
      (e.succeeded = false ∧ c.passed = false → J (.ok ()) ⟨c, st.executions ++ [e]⟩) ∧
        (¬ (e.succeeded = false ∧ c.passed = false) → I rest ⟨c, st.executions ++ [e]⟩)

variable {I : List Value → CaseState → Prop} {J : Except Fault Unit → CaseState → Prop}

theorem Carries.of_steps (h : Carries s registry I J) {sequence : List Value} {st st' : CaseState} {w w' : World ω}
    {r : Except Fault Unit} (steps : d.Steps s registry sequence st w r st' w') :
    I sequence st → Ordinary r ∧ J r st' := by
  induction steps with
  | done => exact fun holds => ⟨ordinary_ok (), h.ends holds⟩
  | skip blank _ ih => exact fun holds => ih (h.skips blank holds)
  | @refuse _ _ _ _ fault textless =>
    exact fun holds => ⟨faulty_error (CaseDescriptor.ordinary_keywordText _ fault textless), h.breaks textless holds⟩
  | @raise _ _ _ _ w₁ _ _ _ _ named raises =>
    intro holds
    obtain ⟨_, _, _, run_eq, e, rfl, -⟩ := Surroundings.exists_of_meets (h.dispatches named holds w₁)
    cases raises.symm.trans run_eq
  | @stop _ _ _ _ w₁ _ _ _ _ _ named dispatched stopped =>
    intro holds
    obtain ⟨_, _, _, run_eq, e, rfl, stops, -⟩ := Surroundings.exists_of_meets (h.dispatches named holds w₁)
    cases dispatched.runs.symm.trans run_eq
    exact ⟨ordinary_ok (), stops stopped⟩
  | @next _ _ _ _ _ w₁ _ _ _ _ _ _ _ named dispatched unstopped _ ih =>
    intro holds
    obtain ⟨_, _, _, run_eq, e, rfl, -, goes_on⟩ := Surroundings.exists_of_meets (h.dispatches named holds w₁)
    cases dispatched.runs.symm.trans run_eq
    exact ih (goes_on unstopped)

/-! ## Loading and executing -/

namespace CaseDescriptor

variable (s d) in
/-- How the definitions of a test case are loaded in a world. -/
def loadingIn (w : World ω) : Loading :=
  match (s.handle (.loadInput d.testId)).run w with
  | (.error fault, _) => .inputFault fault
  | (.ok _, w') =>
    match ((s.handle (.loadKeywords d.testId)).run w').1 with
    | .error fault => .sequenceFault fault
    | .ok sequence => .loaded sequence

theorem loadingIn_of_inputFault {w w₁ : World ω} {fault : Fault}
    (input : (s.handle (.loadInput d.testId)).run w = (.error fault, w₁)) : d.loadingIn s w = .inputFault fault := by
  unfold loadingIn
  rw [input]

theorem loadingIn_of_input {w w₁ : World ω} {data : Entries Value}
    (input : (s.handle (.loadInput d.testId)).run w = (.ok data, w₁)) : d.loadingIn s w =
      match ((s.handle (.loadKeywords d.testId)).run w₁).1 with
      | .error fault => .sequenceFault fault
      | .ok sequence => .loaded sequence := by
  unfold loadingIn
  rw [input]

theorem exists_loads {w : World ω} {sequence : List Value} (h : d.loadingIn s w = .loaded sequence) :
    ∃ x, ((s.source.loadKeywords d.testId).run x).1 = .ok sequence := by
  unfold loadingIn at h
  split at h
  · cases h
  · rename_i w' _
    split at h
    · cases h
    · rename_i loaded
      cases h
      exact ⟨w'.outer, loaded⟩

variable (s d) in
/-- How a test case that starts in a world comes to load its definitions. -/
def loadingFrom (w : World ω) : Loading := d.loadingIn s ((s.perform d.opening).run w).2

variable {st : CaseState} {w : World ω}

/-- What an execution comes to, from what it comes to in each way the definitions can be loaded. -/
theorem meets_execute_of (hs : s.Uninterrupted) {K : Loading → Except Fault Unit → CaseState → Prop}
    (broken : ∀ loading fault data, loading.fault? = some fault → K loading (.error fault) (st.given data))
    (empty : ∀ data, K (.loaded []) (.ok ()) ((st.given data).failing ("No keywords found for test ID: " ++ d.testId)))
    (goes : ∀ {sequence data w₁ r st' w'}, sequence ≠ [] → d.loadingIn s w = .loaded sequence →
      d.Steps s registry sequence (st.given data) w₁ r st' w' → Ordinary r ∧ K (.loaded sequence) r st') :
    Meets s.actual (d.execute registry) st w fun r st' _ => Ordinary r ∧ K (d.loadingIn s w) r st' := by
  refine (meets_execute_executes hs).mono ?_
  intro _ _ _ executes
  cases executes with
  | @inputFault fault _ input =>
    have ordinary := Surroundings.ordinarily_handle hs (.loadInput d.testId) w fault (congrArg Prod.fst input)
    rw [loadingIn_of_inputFault input]
    exact ⟨faulty_error ordinary, broken (.inputFault fault) fault [] rfl⟩
  | @sequenceFault data fault w₁ _ input keywords =>
    have ordinary := Surroundings.ordinarily_handle hs (.loadKeywords d.testId) w₁ fault (congrArg Prod.fst keywords)
    rw [loadingIn_of_input input, congrArg Prod.fst keywords]
    exact ⟨faulty_error ordinary, broken (.sequenceFault fault) fault data rfl⟩
  | @nothing data _ _ input keywords =>
    rw [loadingIn_of_input input, congrArg Prod.fst keywords]
    exact ⟨ordinary_ok (), empty data⟩
  | steps input keywords listed steps =>
    have loading := loadingIn_of_input input
    rw [congrArg Prod.fst keywords] at loading
    rw [loading]
    exact goes listed loading steps

/-! ## The result -/

variable (d) in
/-- Every run of a test case ends in a result, and the result tells of the state that the keywords left. -/
theorem exists_result (hs : s.Orderly) (plan : SuitePlan) (unit : UnitId) (w : World ω) {K : CaseState → Prop}
    (attempts : ∀ opened, d.loadingIn s opened = d.loadingFrom s w →
      Meets s.actual (d.attemptKeywords plan.registry) (d.freshState unit) opened fun r st _ => r = .ok () ∧ K st) :
    ∃ r w' startedAt left closing, (s.perform (d.run plan unit)).run w = (.ok r, w') ∧ s.Later w closing ∧ K left ∧
      d.Concludes s plan.metadataKeys w startedAt left closing r := by
  have loading : ∀ startedAt opened, (s.perform d.opening).run w = (.ok (startedAt, s.stopwatch w.outer), opened) →
      d.loadingIn s opened = d.loadingFrom s w := by
    intro _ _ opens
    unfold loadingFrom
    rw [opens]
  have met : Meets s.actual (d.runWith plan unit) (d.freshState unit) w _ :=
    d.meets_runWith_of hs (K := fun _ left _ => K left) fun startedAt opened opens =>
      attempts opened (loading startedAt opened opens)
  obtain ⟨_, _, w', run, -, r, startedAt, _, left, closing, rfl, -, known⟩ := Surroundings.exists_of_meets met
  exact ⟨r, w', startedAt, left, closing, d.run_eq_runWith run, known⟩

end CaseDescriptor

end KeywordSuite
