import KeywordSuite.Proofs.Case.Completion
import KeywordSuite.Proofs.Case.Sequence
import KeywordSuite.Proofs.Case.Silence

/-!
# What is told of a test case

A test case is announced, then each dispatch is announced and told if it went wrong, then the outcome
is told to the report and to every listener. Nothing else is told of it, whatever fails on the way.
-/

namespace KeywordSuite

/-! ## Scripts -/

/-- A keyword is announced, and a record of no success is told with its reason. -/
def CaseDescriptor.stepScript (d : CaseDescriptor) (keyword : String) (e : KeywordExecution) : List Telling :=
  .report (.log .info d.testId d.testName ("Executing keyword: " ++ keyword)) ::
    match e.status with
    | .passed => []
    | .softFailed => [.report (.log .warning d.testId d.testName (e.reason.getD ""))]
    | .failed => [.report (.log .failed d.testId d.testName (e.reason.getD ""))]

/-- The path of a screenshot of the failure is attached, if there is one. -/
def CaseResult.shotScript (r : CaseResult) (path : Option String) : List Telling :=
  match r.passed, path with
  | true, _ | false, none | false, some "" => []
  | false, some path => [.report (.attach r.testId r.testName path "Failure Screenshot")]

def CaseResult.finishCall (r : CaseResult) : ReportCall :=
  .finishCase r.status r.testId r.testName
    (if r.passed then "Test case passed successfully" else "Test failed: " ++ r.failureReason.getD "None")

theorem status_eq_of_passed {r : CaseResult} (h : r.passed = true) : r.status = .passed := eq_of_beq h

theorem status_eq_of_not_passed {r : CaseResult} (h : r.passed = false) : r.status = .failed := by
  cases hst : r.status with
  | failed => rfl
  | passed => simp [CaseResult.passed, hst] at h

/-- News for every listener of a number of them. -/
def newsForAll (news : SuiteNews) (listeners : Nat) : List Telling :=
  (List.range listeners).map fun n => .news n news

/-- What happened in a test case, as far as it is told. -/
structure CaseTale where
  /-- The keywords that were dispatched, with their records. -/
  steps : List (String × KeywordExecution)
  result : CaseResult
  /-- The path that capturing a failure came to. -/
  path : Option String

def CaseTale.script (t : CaseTale) (d : CaseDescriptor) (listeners : Nat) : List Telling :=
  .report (.beginCase d.testId d.testName d.description) ::
    (t.steps.flatMap fun step => d.stepScript step.1 step.2) ++
    t.result.shotScript t.path ++ [.report t.result.finishCall] ++ newsForAll (.result t.result) listeners

/-! ## Shared procedures -/

section

variable {ω α β : Type} {s : Surroundings ω}

variable (s) in
/-- A procedure comes to a value, and what is heard of it is this script. -/
def Tells (p : SharedProcedure α) (script : List Telling) : Prop :=
  ∀ w, (ExceptT.run p).Keeps s.overheard.actual w fun r w' =>
    (∃ a, r = .ok a) ∧ w'.outer.heard = w.outer.heard ++ s.heard script

theorem Tells.heard {p : SharedProcedure α} {script : List Telling} (hp : Tells s p script) {w w' : World (Overheard ω)}
    {r : Except Fault α} (runs : (s.overheard.perform p).run w = (r, w')) :
    w'.outer.heard = w.outer.heard ++ s.heard script := by
  obtain ⟨_, _, run_eq, -, heard⟩ := Surroundings.run_of_keeps (hp w)
  cases runs.symm.trans run_eq
  exact heard

theorem tells_pure (a : α) : Tells s (pure a) [] := fun _ => ⟨⟨a, rfl⟩, (List.append_nil _).symm⟩

theorem Tells.bind {p : SharedProcedure α} {f : α → SharedProcedure β} {first second : List Telling}
    (hp : Tells s p first) (hf : ∀ a, Tells s (f a) second) : Tells s (p >>= f) (first ++ second) := by
  intro w
  rw [keeps_seq]
  refine (hp w).mono ?_
  intro _ w' told
  obtain ⟨⟨a, rfl⟩, heard⟩ := told
  refine (hf a w').mono ?_
  intro r w'' told
  exact ⟨told.1, by rw [told.2, heard, Surroundings.heard_append, List.append_assoc]⟩

theorem tells_log (level : LogLevel) (message : String) : Tells s (SharedProcedure.log level message) [] := by
  intro w
  rw [SharedProcedure.log, keeps_perform]
  refine ⟨w, rfl, ?_⟩
  rintro _ rfl
  exact ⟨⟨(), rfl⟩, (List.append_nil _).symm⟩

/-- Attempting an operation comes to a value, and what is heard is the operation itself. -/
theorem tells_attempt (hs : s.overheard.Uninterrupted) {op : SharedOp} {script : List Telling}
    (heard : ∀ w, ((s.overheard.handle op).run w).2.outer.heard = w.outer.heard ++ s.heard script) :
    Tells s (SharedProcedure.perform op).attempt script := by
  intro w
  rw [keeps_attempt, keeps_perform]
  refine ⟨w, rfl, ?_⟩
  rintro _ rfl
  exact ⟨⟨_, settled_of_ordinary (Surroundings.ordinarily_handle hs op w)⟩, heard w⟩

theorem Tells.told {p : SharedProcedure Unit} {script : List Telling} (hp : Tells s p script)
    {w₀ w : World (Overheard ω)} (same : w.outer.heard = w₀.outer.heard) :
    (ExceptT.run p).Keeps s.overheard.actual w fun r w' =>
      r = .ok () ∧ w'.outer.heard = w₀.outer.heard ++ s.heard script := by
  refine (hp w).mono ?_
  intro _ w' told
  obtain ⟨⟨_, rfl⟩, heard⟩ := told
  exact ⟨rfl, by rw [heard, same]⟩

variable (hs : s.overheard.Uninterrupted)
include hs

theorem tells_tellReport (call : ReportCall) : Tells s (tellReport call) [.report call] := by
  have told : Tells s (SharedProcedure.perform (.report call)).attempt [.report call] :=
    tells_attempt hs (heard_report call)
  have said : Tells s (tellReport call) ([.report call] ++ []) := told.bind fun told => by
    cases told with
    | ok answer => exact tells_pure answer
    | error fault => exact (tells_log _ _).bind fun _ => tells_pure none
  exact said

theorem tells_reportExecution (d : CaseDescriptor) (e : KeywordExecution) :
    Tells s (d.reportExecution e) (d.stepScript "" e).tail := by
  unfold CaseDescriptor.reportExecution CaseDescriptor.stepScript
  cases e.status with
  | passed => exact tells_pure ()
  | softFailed => exact (tells_tellReport hs _).bind fun _ => tells_pure ()
  | failed => exact (tells_tellReport hs _).bind fun _ => tells_pure ()

/-- Every listener from a number on hears the news once, in order. -/
theorem tells_informAll (news : SuiteNews) : ∀ (names : List String) (n : Nat),
    n + names.length = s.listeners.length →
    Tells s (informAll news n names) ((List.range' n names.length).map fun n => .news n news)
  | [], n, _ => tells_pure ()
  | name :: rest, n, count => by
    have here : n < s.listeners.length := by rw [← count, List.length_cons]; omega
    have told : Tells s (SharedProcedure.perform (.inform n news)).attempt [.news n news] :=
      tells_attempt hs fun w => by rw [heard_inform here, Surroundings.heard_news]
    have others : Tells s (informAll news (n + 1) rest)
        ((List.range' (n + 1) rest.length).map fun n => .news n news) :=
      tells_informAll news rest (n + 1) (by rw [← count, List.length_cons]; omega)
    refine told.bind fun r => ?_
    cases r with
    | ok _ => exact others
    | error fault => exact (tells_log _ _).bind fun _ => others

theorem tells_informAll_all (news : SuiteNews) {names : List String} (count : names.length = s.listeners.length) :
    Tells s (informAll news 0 names) (newsForAll news s.listeners.length) := by
  have told := tells_informAll hs news names 0 (by rw [Nat.zero_add, count])
  rwa [count, ← List.range_eq_range'] at told

/-- Capturing a failure is not heard. -/
theorem keeps_captureFailure_unheard (r : CaseResult) (unit : UnitId) (w : World (Overheard ω)) :
    (ExceptT.run (CaseDescriptor.captureFailure r unit)).Keeps s.overheard.actual w fun told w' =>
      w'.outer.heard = w.outer.heard ∧ ∃ path, told = .ok path ∧
        (s.overheard.perform (CaseDescriptor.captureFailure r unit)).run w = (.ok path, w') := by
  have said : Tells s (CaseDescriptor.captureFailure r unit) [] := by
    have captures : Tells s (SharedProcedure.perform
        (.captureOnFailure r.testId r.testName r.failureReason unit)).attempt [] :=
      tells_attempt hs fun w => (heard_silent _ rfl w).trans (List.append_nil _).symm
    refine captures.bind fun captured => ?_
    cases captured with
    | ok path => exact tells_pure path
    | error fault => exact (tells_log _ _).bind fun _ => tells_pure none
  refine (Surroundings.keeps_run (said w)).mono ?_
  intro _ w' told
  obtain ⟨run_eq, ⟨path, rfl⟩, heard⟩ := told
  exact ⟨heard.trans (List.append_nil _), path, rfl, run_eq⟩

/-- A failed result is told after its failure was captured, with the path that capturing came to. -/
theorem keeps_reportOutcome_heard {names : List String} (count : names.length = s.listeners.length)
    (r : CaseResult) (unit : UnitId) (w : World (Overheard ω)) :
    (ExceptT.run (CaseDescriptor.reportOutcome names r unit)).Keeps s.overheard.actual w fun told w' =>
      told = .ok () ∧ ∃ path, w'.outer.heard = w.outer.heard ++ s.heard
          (r.shotScript path ++ [.report r.finishCall] ++ newsForAll (.result r) s.listeners.length) ∧
        (r.passed = false → ∃ w₁,
          (s.overheard.perform (CaseDescriptor.captureFailure r unit)).run w = (.ok path, w₁)) := by
  have informs := tells_informAll_all hs (.result r) count
  unfold CaseDescriptor.reportOutcome CaseResult.finishCall CaseResult.shotScript
  by_cases hr : r.passed = true
  · simp only [hr, if_true, status_eq_of_passed hr]
    refine (((tells_tellReport hs _).bind fun _ => informs).told rfl).mono ?_
    intro told w' said
    exact ⟨said.1, none, said.2, fun h => by cases h⟩
  · have failed : r.passed = false := Bool.eq_false_iff.2 hr
    simp only [failed, Bool.false_eq_true, if_false, status_eq_of_not_passed failed]
    rw [keeps_seq]
    refine (keeps_captureFailure_unheard hs r unit w).mono ?_
    intro _ w₁ said
    obtain ⟨same, path, rfl, captured⟩ := said
    dsimp only
    have finishes := (tells_tellReport hs (.finishCase .failed r.testId r.testName
      ("Test failed: " ++ r.failureReason.getD "None"))).bind fun _ => informs
    split
    · refine (finishes.told same).mono ?_
      exact fun _ _ said => ⟨said.1, none, said.2, fun _ => ⟨w₁, captured⟩⟩
    · refine (finishes.told same).mono ?_
      exact fun _ _ said => ⟨said.1, some "", said.2, fun _ => ⟨w₁, captured⟩⟩
    · rename_i path _
      refine (((tells_tellReport hs (.attach r.testId r.testName path "Failure Screenshot")).bind
        fun _ => finishes).told same).mono ?_
      refine fun _ _ said => ⟨said.1, some path, ?_, fun _ => ⟨w₁, captured⟩⟩
      simp [said.2]

end

/-! ## The stages of a test case -/

section

variable {ω σ α : Type} {s : Surroundings ω}

theorem meets_tells {p : SharedProcedure α} {script : List Telling} (hp : Tells s p script) {st : CaseState}
    {w : World (Overheard ω)} : Meets s.overheard.actual (CaseProcedure.shared p) st w fun r st' w' =>
      (∃ a, r = .ok a) ∧ st' = st ∧ w'.outer.heard = w.outer.heard ++ s.heard script :=
  meets_onContext.2 (meets_shared.2 ((hp w).mono fun _ _ told => ⟨told.1, rfl, told.2⟩))

theorem meets_and {p : ExceptT Fault (StateT σ (Program SharedOp.Reply)) α} {x : σ} {w : World ω}
    {post post' : Except Fault α → σ → World ω → Prop} (h : Meets s.actual p x w post)
    (h' : Meets s.actual p x w post') : Meets s.actual p x w fun r y w' => post r y w' ∧ post' r y w' := by
  unfold Meets at h h' ⊢
  rw [Surroundings.keeps_actual] at h h' ⊢
  exact ⟨h, h'⟩

variable (d : CaseDescriptor) {registry : KeywordRegistry}

/-- The keywords that were dispatched of a sequence, and what is heard of them. -/
structure Recounts (s : Surroundings ω) (sequence : List Value) (st st' : CaseState)
    (w w' : World (Overheard ω)) (steps : List (String × KeywordExecution)) : Prop where
  in_order : steps.map Prod.fst <+: keywordsOf sequence
  executions : st'.executions = st.executions ++ steps.map Prod.snd
  heard : w'.outer.heard = w.outer.heard ++ s.heard (steps.flatMap fun step => d.stepScript step.1 step.2)

theorem recounts_nothing (sequence : List Value) {st st' : CaseState} {w w' : World (Overheard ω)}
    (executions : st'.executions = st.executions) (heard : w'.outer.heard = w.outer.heard) :
    Recounts d s sequence st st' w w' [] where
  in_order := List.nil_prefix
  executions := by rw [executions]; exact (List.append_nil _).symm
  heard := by rw [heard]; exact (List.append_nil _).symm

theorem Recounts.cons {v : Value} {keyword : String} (hv : v.keyword? = some keyword) {sequence : List Value}
    {st₀ st st' : CaseState} {w₀ w w' : World (Overheard ω)} {e : KeywordExecution}
    {steps : List (String × KeywordExecution)} (executed : st.executions = st₀.executions ++ [e])
    (heard : w.outer.heard = w₀.outer.heard ++ s.heard (d.stepScript keyword e))
    (rest : Recounts d s sequence st st' w w' steps) :
    Recounts d s (v :: sequence) st₀ st' w₀ w' ((keyword, e) :: steps) where
  in_order := by
    rw [keywordsOf_cons, hv]
    exact List.cons_prefix_cons.2 ⟨rfl, rest.in_order⟩
  executions := by rw [rest.executions, executed, List.append_assoc]; rfl
  heard := by
    rw [rest.heard, heard, List.flatMap_cons, Surroundings.heard_append, List.append_assoc]

variable (hs : s.overheard.Orderly) (hr : registry.Uninterrupted s.overheard) (hq : registry.Silent)
include hs hr hq

theorem CaseDescriptor.Dispatched.heard {keyword : String} {c c' : Context} {w w₁ w₂ w' : World (Overheard ω)}
    {e : KeywordExecution} (h : d.Dispatched s.overheard registry keyword w c w₁ e c' w₂ w') :
    w'.outer.heard = w.outer.heard ++ s.heard (d.stepScript keyword e) := by
  obtain ⟨⟨_, announces⟩, runs, reports⟩ := h
  have announced := (tells_tellReport hs.toUninterrupted _).heard announces
  have reported := (tells_reportExecution hs.toUninterrupted d e).heard reports
  obtain ⟨_, _, _, run_eq, unheard, -⟩ := Surroundings.exists_of_meets
    ((silent_dispatch hq (some keyword)).unheard (meets_dispatch (c := c) (w := w₁) hs hr keyword))
  cases runs.symm.trans run_eq
  rw [reported, unheard, announced, List.append_assoc, ← Surroundings.heard_append]
  rfl

theorem CaseDescriptor.Steps.recounts {sequence : List Value} {st st' : CaseState} {w w' : World (Overheard ω)}
    {r : Except Fault Unit} (h : d.Steps s.overheard registry sequence st w r st' w') :
    ∃ steps, Recounts d s sequence st st' w w' steps := by
  induction h with
  | done => exact ⟨[], recounts_nothing d [] rfl rfl⟩
  | skip blank _ ih =>
    obtain ⟨steps, told⟩ := ih
    refine ⟨steps, { told with in_order := ?_ }⟩
    rw [keywordsOf_cons, keyword?_of_keywordText blank]
    exact told.in_order
  | refuse => exact ⟨[], recounts_nothing d _ rfl rfl⟩
  | raise _ raises =>
    obtain ⟨_, recorded⟩ := CaseDescriptor.exists_record hs hr raises
    cases recorded
  | @stop _ rest _ _ _ _ _ keyword e _ named dispatched _ =>
    have heard := dispatched.heard d hs hr hq
    exact ⟨[(keyword, e)], .cons d (keyword?_of_keywordText named) rfl heard (recounts_nothing d rest rfl rfl)⟩
  | @next _ _ _ _ _ _ _ _ _ keyword e _ _ named dispatched _ _ ih =>
    obtain ⟨steps, told⟩ := ih
    exact ⟨(keyword, e) :: steps, .cons d (keyword?_of_keywordText named) rfl (dispatched.heard d hs hr hq) told⟩

omit hs hr hq in
variable (s) in
/-- A sequence that loading the keywords came to, or nothing, as where loading failed. -/
def CaseDescriptor.Loads (sequence : List Value) : Prop :=
  sequence = [] ∨ ∃ x, ((s.source.loadKeywords d.testId).run x).1 = .ok sequence

theorem CaseDescriptor.Executes.recounts {st st' : CaseState} {w w' : World (Overheard ω)} {r : Except Fault Unit}
    (h : d.Executes s.overheard registry st w r st' w') :
    ∃ sequence steps, d.Loads s sequence ∧ Recounts d s sequence st st' w w' steps := by
  -- Loading is not heard, whatever it comes to.
  have input_unheard {w w₁ : World (Overheard ω)} {loaded}
      (input : (s.overheard.handle (.loadInput d.testId)).run w = (loaded, w₁)) : w₁.outer.heard = w.outer.heard := by
    rw [← heard_silent (s := s) (.loadInput d.testId) rfl w, input]
  have unheard {w w₁ : World (Overheard ω)} {loaded}
      (keywords : (s.overheard.handle (.loadKeywords d.testId)).run w = (loaded, w₁)) :
      w₁.outer.heard = w.outer.heard := by
    rw [← heard_silent (s := s) (.loadKeywords d.testId) rfl w, keywords]
  cases h with
  | inputFault input => exact ⟨[], [], .inl rfl, recounts_nothing d [] rfl (input_unheard input)⟩
  | sequenceFault input keywords | nothing input keywords =>
    exact ⟨[], [], .inl rfl, recounts_nothing d [] rfl ((unheard keywords).trans (input_unheard input))⟩
  | @steps _ sequence w₁ _ _ _ _ input keywords _ steps =>
    obtain ⟨steps, told⟩ := steps.recounts d hs hr hq
    have outcome : ((s.source.loadKeywords d.testId).run w₁.outer.outer).1 = .ok sequence := congrArg Prod.fst keywords
    refine ⟨sequence, steps, .inr ⟨w₁.outer.outer, outcome⟩, told.in_order, told.executions, told.heard.trans ?_⟩
    rw [unheard keywords, input_unheard input]

theorem meets_attemptKeywords_heard (st : CaseState) (w : World (Overheard ω)) :
    Meets s.overheard.actual (d.attemptKeywords registry) st w fun r st' w' =>
      r = .ok () ∧ ∃ sequence steps, d.Loads s sequence ∧ Recounts d s sequence st st' w w' steps := by
  refine (d.meets_attemptKeywords hs hr).mono ?_
  intro _ _ _ told
  obtain ⟨rfl, outcome, left, w₁, executes, rfl, rfl⟩ := told
  obtain ⟨sequence, steps, loads, told⟩ := executes.recounts d hs hr hq
  cases outcome with
  | ok _ => exact ⟨rfl, sequence, steps, loads, told⟩
  | error fault => exact ⟨rfl, sequence, steps, loads, told.in_order, told.executions, told.heard⟩

end

/-! ## A whole test case -/

section

variable {ω : Type} {s : Surroundings ω} (d : CaseDescriptor)

/-- A test case up to its result, before anything is told of its outcome. -/
def CaseDescriptor.upToResult (plan : SuitePlan) : CaseProcedure CaseResult := do
  let (startedAt, start) ← CaseProcedure.shared d.opening
  d.attemptKeywords plan.registry
  d.recordResult plan.metadataKeys startedAt start

/-- The tale is that of a run of the test case on a unit from one world to another. -/
structure CaseTale.Happens (t : CaseTale) (s : Surroundings ω) (plan : SuitePlan) (d : CaseDescriptor)
    (unit : UnitId) (w w' : World (Overheard ω)) : Prop where
  runs : (s.overheard.perform (d.run plan unit)).run w = (.ok t.result, w')
  keywords : t.result.keywords = t.steps.map Prod.snd
  in_order : ∃ sequence, d.Loads s sequence ∧ t.steps.map Prod.fst <+: keywordsOf sequence
  captured : t.result.passed = false → ∃ st w₁ w₂,
    ((d.upToResult plan).run (d.freshState unit)).run s.overheard.handle w = ((.ok t.result, st), w₁) ∧
    (s.overheard.perform (CaseDescriptor.captureFailure t.result unit)).run w₁ = (.ok t.path, w₂)
  heard : w'.outer.heard = w.outer.heard ++ s.heard (t.script d s.listeners.length)

theorem meets_of_run {σ α : Type} {p : ExceptT Fault (StateT σ (Program SharedOp.Reply)) α} {x y : σ}
    {w w' : World ω} {r : Except Fault α} {post : Except Fault α → σ → World ω → Prop}
    (h : (StateT.run (ExceptT.run p) x).run s.handle w = ((r, y), w')) (end_post : post r y w') :
    Meets s.actual p x w post := by
  unfold Meets
  rw [Surroundings.keeps_actual, h]
  exact end_post

theorem run_upToResult {plan : SuitePlan} {st st₁ st₂ st₃ : CaseState} {w w₁ w₂ w₃ : World ω}
    {startedAt : Timestamp} {start : Float} {r : CaseResult}
    (opens : ((CaseProcedure.shared d.opening).run st).run s.handle w = ((.ok (startedAt, start), st₁), w₁))
    (executes : ((d.attemptKeywords plan.registry).run st₁).run s.handle w₁ = ((.ok (), st₂), w₂))
    (records : ((d.recordResult plan.metadataKeys startedAt start).run st₂).run s.handle w₂ = ((.ok r, st₃), w₃)) :
    ((d.upToResult plan).run st).run s.handle w = ((.ok r, st₃), w₃) := by
  have recorded : Meets s.actual (d.upToResult plan) st w fun r' st' w' => ((r', st'), w') = ((.ok r, st₃), w₃) := by
    unfold CaseDescriptor.upToResult
    rw [meets_bind]
    refine meets_of_run opens ?_
    dsimp only
    rw [meets_bind]
    refine meets_of_run executes ?_
    exact meets_of_run records rfl
  exact (Surroundings.keeps_actual _ _ _).1 recorded

theorem tells_opening (hs : s.overheard.Uninterrupted) :
    Tells s d.opening [.report (.beginCase d.testId d.testName d.description)] := by
  have reads : ∀ {op : SharedOp}, op.isTelling = false → (∀ w, ∃ a, ((s.overheard.handle op).run w).1 = .ok a) →
      Tells s (SharedProcedure.perform op) [] := by
    intro op silent answers w
    rw [keeps_perform]
    refine ⟨w, rfl, ?_⟩
    rintro _ rfl
    exact ⟨answers w, (heard_silent _ silent w).trans (List.append_nil _).symm⟩
  have opened : Tells s d.opening ([] ++ ([] ++ ([] ++
      ([.report (.beginCase d.testId d.testName d.description)] ++ [])))) := by
    refine (reads rfl fun _ => ⟨_, rfl⟩).bind fun startedAt => ?_
    refine (reads rfl fun _ => ⟨_, rfl⟩).bind fun start => ?_
    refine (tells_log _ _).bind fun _ => ?_
    exact (tells_tellReport hs _).bind fun _ => tells_pure _
  exact opened

variable {plan : SuitePlan} (hs : s.overheard.Orderly) (hr : plan.registry.Uninterrupted s.overheard)
  (hq : plan.registry.Silent) (count : plan.listeners.length = s.listeners.length)
include hs hr hq count

theorem meets_runWith_heard (unit : UnitId) (w : World (Overheard ω)) :
    Meets s.overheard.actual (d.runWith plan unit) (d.freshState unit) w fun r _ w' =>
      ∃ t : CaseTale, r = .ok t.result ∧
        ((s.overheard.perform (d.run plan unit)).run w = (.ok t.result, w') → t.Happens s plan d unit w w') := by
  rw [CaseDescriptor.runWith_eq_stages, meets_bind]
  refine (Surroundings.meets_run (meets_and (meets_tells (tells_opening d hs.toUninterrupted))
    (d.meets_opening hs.toUninterrupted))).mono ?_
  intro _ st w₁ told
  obtain ⟨opens, ⟨-, rfl, announced⟩, ⟨startedAt, rfl⟩, -, later⟩ := told
  dsimp only
  rw [meets_bind, meets_andFinally]
  unfold CaseDescriptor.stages
  rw [meets_bind]
  refine (Surroundings.meets_later (Surroundings.meets_run
    (meets_attemptKeywords_heard d hs hr hq _ w₁))).mono ?_
  intro _ st₂ w₂ told
  obtain ⟨later', executes, rfl, sequence, steps, loads, recounts⟩ := told
  dsimp only
  rw [meets_bind]
  refine (Surroundings.meets_run ((silent_recordResult d plan.metadataKeys startedAt _).unheard
    (d.meets_recordResult hs (later.trans later') plan.metadataKeys startedAt))).mono ?_
  intro _ st₃ w₃ told
  obtain ⟨records, unheard, res, rfl, tells, executions, -⟩ := told
  have upTo := run_upToResult d opens executes records
  dsimp only
  rw [meets_bind]
  have reports := Surroundings.keeps_run (keeps_reportOutcome_heard hs.toUninterrupted count res unit w₃)
  refine meets_onContext.2 (meets_shared.2 (reports.mono ?_))
  intro _ w₄ told
  obtain ⟨-, rfl, path, outcome, captured⟩ := told
  dsimp only
  rw [meets_pure]
  refine ((silent_release unit).unheard (CaseDescriptor.meets_release hs.toUninterrupted unit)).mono ?_
  intro _ st₅ w₅ told
  obtain ⟨released, rfl, -⟩ := told
  dsimp only [lastFault]
  rw [meets_bind, meets_caseLog]
  -- all stages are behind: what each of them told is put together in the order they ran
  refine ⟨⟨steps, res, path⟩, rfl, fun runs => ⟨runs, ?_, ⟨sequence, loads, recounts.in_order⟩, ?_, ?_⟩⟩
  · rw [tells.keywords, executions, recounts.executions]
    rfl
  · intro failed
    obtain ⟨w', captured⟩ := captured failed
    exact ⟨st₃, w₃, w', upTo, captured⟩
  · calc w₅.outer.heard
        = w.outer.heard ++ s.heard [.report (.beginCase d.testId d.testName d.description)] ++
            s.heard (steps.flatMap fun step => d.stepScript step.1 step.2) ++
            s.heard (res.shotScript path ++ [.report res.finishCall] ++
              newsForAll (.result res) s.listeners.length) := by
          rw [released, outcome, unheard, recounts.heard, announced]
      _ = w.outer.heard ++ s.heard (CaseTale.script ⟨steps, res, path⟩ d s.listeners.length) := by
          simp only [CaseTale.script, List.append_assoc, ← Surroundings.heard_append, List.cons_append,
            List.nil_append]

/-- Every run of a test case has a tale. -/
theorem exists_tale (unit : UnitId) (w : World (Overheard ω)) :
    ∃ (t : CaseTale) (w' : World (Overheard ω)), t.Happens s plan d unit w w' := by
  have met : Meets s.overheard.actual (d.runWith plan unit) (d.freshState unit) w _ :=
    meets_runWith_heard d hs hr hq count unit w
  obtain ⟨_, st, w', hrun, t, rfl, happens⟩ := Surroundings.exists_of_meets met
  exact ⟨t, w', happens (d.run_eq_runWith hrun)⟩

end

end KeywordSuite
