import KeywordSuite.Proofs.Case.Execution

/-!
# Every test case completes

In surroundings that raise whatever they like, short of an interruption by the user, a test case
ends in one result of its own, its context is emptied and its unit is forgotten by the registry.
-/

namespace KeywordSuite

variable {ω : Type} {s : Surroundings ω}

namespace CaseDescriptor

variable (d : CaseDescriptor)

/-! ## Execution -/

theorem ordinary_keywordText (v : Value) : Ordinary (keywordText v) := by
  unfold keywordText
  split
  · exact ordinary_ok none
  · exact ordinary_bind (ordinary_mapError _) fun text => ordinary_ok _

/-- A dispatch comes to a record, whatever the keyword meets. -/
theorem exists_record (hs : s.Orderly) {registry : KeywordRegistry} (hr : registry.Uninterrupted s) {keyword : String}
    {c c' : Context} {w w' : World ω} {r : Except Fault KeywordExecution}
    (runs : ((registry.dispatch (some keyword)).run c).run s.handle w = ((r, c'), w')) : ∃ e, r = .ok e := by
  obtain ⟨_, _, _, run_eq, e, rfl, -⟩ := Surroundings.exists_of_meets (meets_dispatch (c := c) (w := w) hs hr keyword)
  cases runs.symm.trans run_eq
  exact ⟨e, rfl⟩

variable {d} in
theorem Steps.ordinary (hs : s.Orderly) {registry : KeywordRegistry} (hr : registry.Uninterrupted s)
    {sequence : List Value} {st st' : CaseState} {w w' : World ω} {r : Except Fault Unit}
    (h : d.Steps s registry sequence st w r st' w') : Ordinary r := by
  induction h with
  | done | stop => exact ordinary_ok ()
  | skip _ _ ih | next _ _ _ _ ih => exact ih
  | refuse textless => exact faulty_error (ordinary_keywordText _ _ textless)
  | raise _ raises =>
    obtain ⟨_, recorded⟩ := exists_record hs hr raises
    cases recorded

variable {d} in
theorem Executes.ordinary (hs : s.Orderly) {registry : KeywordRegistry} (hr : registry.Uninterrupted s)
    {st st' : CaseState} {w w' : World ω} {r : Except Fault Unit} (h : d.Executes s registry st w r st' w') :
    Ordinary r := by
  cases h with
  | inputFault input =>
    exact faulty_error (Surroundings.ordinarily_handle hs.toUninterrupted (.loadInput d.testId) w _ (congrArg Prod.fst input))
  | sequenceFault _ keywords =>
    exact faulty_error
      (Surroundings.ordinarily_handle hs.toUninterrupted (.loadKeywords d.testId) _ _ (congrArg Prod.fst keywords))
  | nothing => exact ordinary_ok ()
  | steps _ _ _ steps => exact steps.ordinary hs hr

/-! ## The stages -/

variable {st : CaseState} {w : World ω}

theorem meets_opening (hs : s.Uninterrupted) : Meets s.actual (CaseProcedure.shared d.opening) st w
    fun r st' w' => (∃ startedAt, r = .ok (startedAt, s.stopwatch w.outer)) ∧ st' = st ∧ s.Later w w' := by
  unfold opening
  simp only [CaseProcedure.shared_bind]
  refine (meets_bind _ _ _).2 (meets_caseNow.2 ?_)
  refine (meets_bind _ _ _).2 (meets_caseStopwatch.2 ?_)
  refine (meets_bind _ _ _).2 ((meets_caseLog _ _).2 ?_)
  rw [meets_bind]
  refine (Surroundings.meets_answers (Surroundings.answers_tellReport hs.report _)).mono ?_
  intro _ _ w' told
  obtain ⟨⟨_, rfl, -⟩, rfl, later⟩ := told
  exact ⟨⟨_, rfl⟩, rfl, .trans (.step (.log _ _) .refl) later⟩

theorem meets_attemptKeywords (hs : s.Orderly) {registry : KeywordRegistry} (hr : registry.Uninterrupted s) :
    Meets s.actual (d.attemptKeywords registry) st w fun r st' w' => r = .ok () ∧ ∃ outcome left w₁,
      d.Executes s registry st w outcome left w₁ ∧ st' = left.ended outcome ∧ w' = d.endedIn s w₁ outcome :=
  meets_attemptKeywords_of ((meets_execute_executes hs.toUninterrupted).mono
    fun _ _ _ executes => ⟨executes.ordinary hs hr, executes⟩)

structure Owns (r : CaseResult) : Prop where
  testId : r.testId = d.testId
  testName : r.testName = d.testName
  description : r.description = d.description
  ticketRef : r.ticketRef = d.ticketRef

variable (s) in
/--
A result of a test case that started in a world: it tells of the state that the keywords left, and of a fault that
recording it met.
-/
structure Concludes (keys : List String) (w : World ω) (startedAt : Timestamp) (left : CaseState) (closing : World ω)
    (r : CaseResult) : Prop where
  owns : d.Owns r
  records : r.keywords = left.executions
  history : r.failureHistory = Trouble.addAll left.context.failures
    ((d.recordFault? s keys startedAt (s.stopwatch w.outer) left closing).map Trouble.exception).toList
  reason : r.failureReason = r.failureHistory.head?
  status : r.status = if r.failureHistory.isEmpty then .passed else .failed

variable {d} in
theorem Concludes.passed_iff {keys : List String} {startedAt : Timestamp} {left : CaseState} {closing : World ω}
    {r : CaseResult} (h : d.Concludes s keys w startedAt left closing r) : r.status = .passed ↔ r.failureHistory = [] := by
  rw [h.status]
  cases r.failureHistory <;> simp

theorem meets_stages (hs : s.Orderly) {plan : SuitePlan} {unit : UnitId} {startedAt : Timestamp} {w₀ : World ω}
    (later : s.Later w₀ w) {K : CaseState → World ω → Prop}
    (attempts : Meets s.actual (d.attemptKeywords plan.registry) st w fun r st' w' => r = .ok () ∧ K st' w') :
    Meets s.actual (d.stages plan unit startedAt (s.stopwatch w₀.outer)) st w fun r _ _ =>
      ∃ res left closing, r = .ok res ∧ s.Later w₀ closing ∧ K left closing ∧
        d.Concludes s plan.metadataKeys w₀ startedAt left closing res := by
  unfold stages
  rw [meets_bind]
  refine (Surroundings.meets_later attempts).mono ?_
  intro _ left closing told
  obtain ⟨later', rfl, holds⟩ := told
  dsimp only
  rw [meets_bind]
  refine (d.meets_recordResult hs (later.trans later') plan.metadataKeys startedAt).mono ?_
  intro _ _ _ told
  obtain ⟨res, rfl, tells, executions, failures⟩ := told
  dsimp only
  rw [meets_bind]
  refine (Surroundings.meets_answers (Surroundings.answers_reportOutcome hs.toUninterrupted _ res unit)).mono ?_
  intro _ _ _ told
  obtain ⟨⟨_, rfl, -⟩, -, -⟩ := told
  refine ⟨res, left, closing, rfl, later.trans later', holds, ⟨?owns, ?records, ?history, ?reason, ?status⟩⟩
  case owns => exact ⟨tells.testId, tells.testName, tells.description, tells.ticketRef⟩
  case records => exact tells.keywords.trans executions
  case history => exact tells.history.trans failures
  case reason =>
    rw [tells.reason, tells.history]
    rfl
  case status =>
    rw [tells.status, tells.history]
    rfl

/-- A context that nothing is left in, and a unit that the registry does not know. -/
def Released (unit : UnitId) (st : CaseState) (w : World ω) : Prop :=
  st.context.session = none ∧ st.context.scratch = [] ∧ w.sessions.hasSlot unit = false

theorem meets_release (hs : s.Uninterrupted) (unit : UnitId) :
    Meets s.actual (release unit) st w fun r st' w' => r = .ok () ∧ Released unit st' w' := by
  unfold release
  rw [meets_bind, meets_onContext]
  refine (Surroundings.meets_cleanUp hs).mono ?_
  intro _ _ w' told
  obtain ⟨rfl, rfl⟩ := told
  dsimp only
  rw [meets_casePerform]
  obtain ⟨x, closed⟩ := SessionBackend.close_ok hs.closes (hs.browse · .quit) unit w'
  have reset := SessionBackend.reset_of_close closed
  have handled : (s.handle (.resetSession unit)).run w' =
      (.ok (), ⟨(w'.sessions.tearDown unit).erase unit, x⟩) := reset
  rw [handled]
  exact ⟨rfl, rfl, rfl, SessionTable.hasSlot_erase _ _⟩

/-- Whatever a test case comes to, its unit is released. -/
theorem meets_runWith_released (hs : s.Uninterrupted) {plan : SuitePlan} (unit : UnitId) :
    Meets s.actual (d.runWith plan unit) st w fun _ st' w' => Released unit st' w' := by
  rw [runWith_eq_stages, meets_bind]
  refine (d.meets_opening hs).mono ?_
  intro _ st₁ w₁ told
  obtain ⟨⟨startedAt, rfl⟩, rfl, -⟩ := told
  have ends : Meets s.actual (d.stages plan unit startedAt (s.stopwatch w.outer)) st₁ w₁ fun _ _ _ => True :=
    (Surroundings.keeps_actual _ _ _).2 trivial
  dsimp only
  rw [meets_bind, meets_andFinally]
  refine ends.mono fun r _ _ _ => (meets_release hs unit).mono ?_
  intro _ _ _ told
  obtain ⟨rfl, released⟩ := told
  cases r with
  | error fault => exact released
  | ok res =>
    dsimp only [lastFault]
    rw [meets_bind, meets_caseLog]
    exact released

/-- What a run comes to, from what attempting its keywords comes to in the world where they are loaded. -/
theorem meets_runWith_of (hs : s.Orderly) {plan : SuitePlan} {unit : UnitId} {K : World ω → CaseState → World ω → Prop}
    (attempts : ∀ startedAt opened, (s.perform d.opening).run w = (.ok (startedAt, s.stopwatch w.outer), opened) →
      Meets s.actual (d.attemptKeywords plan.registry) st opened fun r st' w' => r = .ok () ∧ K opened st' w') :
    Meets s.actual (d.runWith plan unit) st w fun r st' w' => Released unit st' w' ∧
      ∃ res startedAt opened left closing, r = .ok res ∧
        (s.perform d.opening).run w = (.ok (startedAt, s.stopwatch w.outer), opened) ∧ s.Later w closing ∧
        K opened left closing ∧ d.Concludes s plan.metadataKeys w startedAt left closing res := by
  rw [runWith_eq_stages, meets_bind]
  refine (Surroundings.meets_run (d.meets_opening hs.toUninterrupted)).mono ?_
  intro _ _ opened told
  obtain ⟨opening_run, ⟨startedAt, rfl⟩, rfl, later⟩ := told
  have opens := Surroundings.perform_eq_of_shared opening_run
  dsimp only
  rw [meets_bind, meets_andFinally]
  refine (d.meets_stages hs later (attempts startedAt opened opens)).mono ?_
  intro _ _ _ told
  obtain ⟨res, left, closing, rfl, later', holds, concludes⟩ := told
  refine (meets_release hs.toUninterrupted unit).mono ?_
  intro _ _ _ told
  obtain ⟨rfl, released⟩ := told
  dsimp only [lastFault]
  rw [meets_bind, meets_caseLog]
  exact ⟨released, res, startedAt, opened, left, closing, rfl, opens, later', holds, concludes⟩

theorem meets_runWith (hs : s.Orderly) {plan : SuitePlan} (hr : plan.registry.Uninterrupted s)
    (unit : UnitId) : Meets s.actual (d.runWith plan unit) st w fun r st' w' =>
      ∃ res, r = .ok res ∧ d.Owns res ∧ Released unit st' w' := by
  refine (d.meets_runWith_of hs (K := fun _ _ _ => True) fun _ _ _ =>
    (d.meets_attemptKeywords hs hr).mono fun _ _ _ done => ⟨done.1, trivial⟩).mono ?_
  intro _ _ _ told
  obtain ⟨released, res, _, _, _, _, rfl, -, -, -, concludes⟩ := told
  exact ⟨res, rfl, concludes.owns, released⟩

theorem run_eq_runWith {plan : SuitePlan} {unit : UnitId} {r : Except Fault CaseResult} {w' : World ω}
    (h : ((d.runWith plan unit).run (d.freshState unit)).run s.handle w = ((r, st), w')) :
    (s.perform (d.run plan unit)).run w = (r, w') := by
  refine (Program.run_bind s.handle ((d.runWith plan unit).run (d.freshState unit)) _ w).trans ?_
  rw [h]
  rfl

/--
Whatever the collaborators and the keywords raise, a test case returns exactly its own result. Then
its context holds no session and no scratch value, and its unit has no slot in the registry.
-/
theorem run_completes (hs : s.Orderly) (plan : SuitePlan) (hr : plan.registry.Uninterrupted s)
    (unit : UnitId) (w : World ω) :
    ∃ r st w', (s.perform (d.run plan unit)).run w = (.ok r, w') ∧
      ((d.runWith plan unit).run (d.freshState unit)).run s.handle w = ((.ok r, st), w') ∧
      r.testId = d.testId ∧ r.testName = d.testName ∧ r.description = d.description ∧
      r.ticketRef = d.ticketRef ∧
      st.context.session = none ∧ st.context.scratch = [] ∧ w'.sessions.hasSlot unit = false ∧
      ((SessionBackend.isActive unit).run w').1 = .ok false := by
  have met : Meets s.actual (d.runWith plan unit) (d.freshState unit) w _ := d.meets_runWith hs hr unit
  obtain ⟨_, st, w', hrun, r, rfl, owns, session, scratch, slot⟩ := Surroundings.exists_of_meets met
  refine ⟨r, st, w', d.run_eq_runWith hrun, hrun, owns.testId, owns.testName, owns.description,
    owns.ticketRef, session, scratch, slot, ?_⟩
  have idle := SessionTable.live?_eq_none_of_hasSlot _ _ slot
  exact congrArg (fun live => Except.ok (Option.isSome live)) idle

end CaseDescriptor

/-! ## Surroundings in which everything fails -/

/-- Every collaborator raises a fault; only the definitions can be read. -/
def Surroundings.adverse (keywords : List Value) : Surroundings Unit where
  log _ _ x := x
  create _ _ := throw (.plain .runtime "no browser")
  browse _ _ := throw (.plain .runtime "browser is gone")
  defaultConfig := {}
  now _ := default
  localNow _ := default
  stopwatch _ := 0.0
  sleep _ := throw (.plain .runtime "no sleep")
  source := ⟨return [], fun _ => return [], fun _ => return keywords⟩
  report := some fun _ => throw (.plain .runtime "no report")
  capture := .other (fun _ _ => throw (.plain .runtime "no view"))
    fun _ _ _ _ => throw (.plain .runtime "no view")
  listeners := [⟨"Mail", fun _ => throw (.plain .mail "no mail")⟩]
  outside _ _ := throw (.plain .runtime "no world")

theorem Surroundings.orderly_adverse (keywords : List Value) : (adverse keywords).Orderly where
  create _ _ := Act.ordinarily_throw rfl
  browse _ _ := Act.ordinarily_throw rfl
  sleep _ := Act.ordinarily_throw rfl
  loadInput _ := Act.ordinarily_pure _
  loadKeywords _ := Act.ordinarily_pure _
  report tell h call := by cases h; exact Act.ordinarily_throw rfl
  capture onDemand onFailure h := by
    cases h
    exact ⟨fun _ _ => Act.ordinarily_throw rfl, fun _ _ _ _ => Act.ordinarily_throw rfl⟩
  listeners l h news := by
    obtain rfl := List.mem_singleton.1 h
    exact Act.ordinarily_throw rfl
  outside _ _ := Act.ordinarily_throw rfl
  closes := rfl
  steady _ _ _ := by
    show (0.0 : Float) ≤ 0.0 - 0.0
    decide

theorem KeywordRegistry.mem_of_resolve? {r : KeywordRegistry} {name : Option String} {e : KeywordEntry}
    (h : r.resolve? name = some e) : ∃ key, (key, e) ∈ r.keywords := by
  cases name with
  | none => cases h
  | some n =>
    obtain ⟨before, after, found, -⟩ := List.lookup_eq_some_iff.1 h
    exact ⟨canonicalName n, by rw [found]; simp⟩

/-- Two keywords: one breaks after it failed the test case, the other says that it failed. -/
def KeywordRegistry.fragile : KeywordRegistry :=
  ⟨[("BREAK", ⟨"BREAK", fun _ => do
      KeywordProcedure.perform (.put "TRACE" (.textless "no text"))
      KeywordProcedure.perform (.fail "broken")
      throw (.plain .runtime "break"), true, "", "Fragile"⟩),
    ("REFUSE", ⟨"REFUSE", fun _ => return .bool false, true, "", "Fragile"⟩)]⟩

theorem KeywordRegistry.uninterrupted_fragile {ω : Type} (s : Surroundings ω) : fragile.Uninterrupted s := by
  intro name e h
  obtain ⟨key, he⟩ := mem_of_resolve? h
  simp only [fragile, List.mem_cons, List.not_mem_nil, or_false, Prod.mk.injEq] at he
  rcases he with ⟨-, rfl⟩ | ⟨-, rfl⟩
  · intro id c w
    dsimp only
    rw [meets_keyword_bind, meets_keyword_perform, KeywordOp.serve, meets_modify]
    dsimp only
    rw [meets_keyword_bind, meets_keyword_perform, KeywordOp.serve, meets_contextFail]
    exact fun _ h => by cases h; rfl
  · exact fun id c w => ordinary_ok _

theorem CaseDescriptor.run_completes_adverse :
    let s := Surroundings.adverse [.text "refuse", .null, .text " break "]
    let plan : SuitePlan := ⟨.fragile, ["TRACE"], ["Mail"], 1⟩
    let d : CaseDescriptor := { testId := "TC1", testName := "First" }
    ∃ (r : CaseResult) (st : CaseState) (w' : World Unit),
      (s.perform (d.run plan .calling)).run ⟨.empty, ()⟩ = (.ok r, w') ∧
      ((d.runWith plan .calling).run (d.freshState .calling)).run s.handle ⟨.empty, ()⟩ =
        ((.ok r, st), w') ∧
      r.testId = "TC1" ∧ st.context.scratch = [] ∧ w'.sessions.hasSlot .calling = false := by
  intro s plan d
  obtain ⟨r, st, w', hrun, hrun', testId, -, -, -, -, scratch, slot, -⟩ :=
    d.run_completes (Surroundings.orderly_adverse _) plan (KeywordRegistry.uninterrupted_fragile s)
      .calling ⟨.empty, ()⟩
  exact ⟨r, st, w', hrun, hrun', testId, scratch, slot⟩

end KeywordSuite
