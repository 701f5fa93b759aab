import KeywordSuite.Proofs.Case.Sequence

/-!
# The story of a test case

What happened in a run of a test case, said without its procedure: how its definitions were loaded,
which dispatches followed, and whether recording the result met a fault. The result that a test case
returns tells exactly this story, both in its records and in its reasons of failure.
-/

namespace KeywordSuite

/-- How the definitions of a test case were loaded. -/
inductive Loading
  | inputFault (fault : Fault)
  | sequenceFault (fault : Fault)
  | loaded (sequence : List Value)

namespace Loading

def keywords : Loading → List String
  | .loaded sequence => keywordsOf sequence
  | _ => []

def fault? : Loading → Option Fault
  | .inputFault fault | .sequenceFault fault => some fault
  | .loaded _ => none

/-- What loading itself fails a test case with. -/
def troubles (d : CaseDescriptor) : Loading → List Trouble
  | .inputFault fault | .sequenceFault fault => [.exception fault]
  | .loaded [] => [.certain ("No keywords found for test ID: " ++ d.testId)]
  | .loaded (_ :: _) => []

theorem troubles_ne_nil {d : CaseDescriptor} {loading : Loading} :
    loading.troubles d ≠ [] ↔ loading.fault?.isSome ∨ loading = .loaded [] := by
  cases loading with
  | inputFault fault => simp [troubles, fault?]
  | sequenceFault fault => simp [troubles, fault?]
  | loaded sequence => cases sequence <;> simp [troubles, fault?]

variable {ω : Type} (s : Surroundings ω) (d : CaseDescriptor) (registry : KeywordRegistry)

/-- Definitions are loaded so in a world, and what was loaded is dispatched so. -/
def Leads (c : Context) (w : World ω) (steps : List (DispatchStep ω)) : Loading → Prop
  | .inputFault fault => ((s.handle (.loadInput d.testId)).run w).1 = .error fault ∧ steps = []
  | .sequenceFault fault => ∃ data w₁, (s.handle (.loadInput d.testId)).run w = (.ok data, w₁) ∧
      ((s.handle (.loadKeywords d.testId)).run w₁).1 = .error fault ∧ steps = []
  | .loaded sequence => ∃ data w₁ w₂ c' w₃, (s.handle (.loadInput d.testId)).run w = (.ok data, w₁) ∧
      (s.handle (.loadKeywords d.testId)).run w₁ = (.ok sequence, w₂) ∧
      Dispatches s d registry (c.setInput data) w₂ steps c' w₃

end Loading

structure CaseStory (ω : Type) where
  startedAt : Timestamp
  /-- The world in which the definitions are loaded. -/
  opened : World ω
  loading : Loading
  steps : List (DispatchStep ω)
  /-- The state and the world in which the result is recorded. -/
  executed : CaseState
  closing : World ω
  recordFault : Option Fault

namespace CaseStory

variable {ω : Type}

/-- The story is that of the run of a test case from a world on. -/
structure Happens (story : CaseStory ω) (s : Surroundings ω) (plan : SuitePlan) (d : CaseDescriptor)
    (unit : UnitId) (w : World ω) : Prop where
  opens : (s.perform d.opening).run w = (.ok (story.startedAt, s.stopwatch w.outer), story.opened)
  leads : story.loading.Leads s d plan.registry (d.freshState unit).context story.opened story.steps
  executes : ((d.attemptKeywords plan.registry).run (d.freshState unit)).run s.handle story.opened =
    ((.ok (), story.executed), story.closing)
  records : story.recordFault = d.recordFault? s plan.metadataKeys story.startedAt
    (s.stopwatch w.outer) story.executed story.closing

/-- Everything that fails the test case, in the order it happens. -/
def troubles (story : CaseStory ω) (s : Surroundings ω) (registry : KeywordRegistry) (d : CaseDescriptor) :
    List Trouble :=
  story.loading.troubles d ++ (story.steps.flatMap fun step => step.troubles s registry) ++
    (story.recordFault.map Trouble.exception).toList

end CaseStory

/-- Every keyword sequence of a source lists texts, or nothing. -/
def DefinitionSource.Legible {ω : Type} (source : DefinitionSource ω) : Prop :=
  ∀ testId x sequence, ((source.loadKeywords testId).run x).1 = .ok sequence → ∀ v ∈ sequence, v.Legible

theorem Surroundings.legible_adverse {keywords : List Value} (h : ∀ v ∈ keywords, v.Legible) :
    (adverse keywords).source.Legible := by
  intro _ _ _ told
  cases told
  exact h

section

variable {ω : Type} (s : Surroundings ω) (d : CaseDescriptor) (registry : KeywordRegistry)

/-- What is left by an execution that loaded and dispatched so. -/
structure Executed (st : CaseState) (w : World ω) (loading : Loading) (steps : List (DispatchStep ω))
    (st' : CaseState) : Prop where
  leads : loading.Leads s d registry st.context w steps
  follows : Follows loading.keywords steps
  executions : st'.executions = st.executions ++ steps.map (·.record)
  keeps_reasons : ∀ step ∈ steps, step.after.failures <+: st'.context.failures

variable {s d registry} {st : CaseState} {w : World ω}

theorem executed_fault {loading : Loading} (leads : loading.Leads s d registry st.context w [])
    (none_loaded : loading.keywords = []) {st' : CaseState} (same : st'.executions = st.executions) :
    Executed s d registry st w loading [] st' where
  leads := leads
  follows := by rw [none_loaded]; exact follows_nil
  executions := by rw [same]; exact (List.append_nil _).symm
  keeps_reasons _ h := (List.not_mem_nil h).elim

variable (hs : s.Orderly) (hr : registry.Uninterrupted s) (hv : s.source.Legible)
include hs hr hv

theorem CaseDescriptor.Executes.told {st' : CaseState} {w' : World ω} {r : Except Fault Unit}
    (h : d.Executes s registry st w r st' w') :
    ∃ loading steps, Executed s d registry st w loading steps (st'.ended r) ∧
      (st'.ended r).context.failures = Trouble.addAll st.context.failures
        (loading.troubles d ++ steps.flatMap fun step => step.troubles s registry) := by
  cases h with
  | @inputFault fault _ input =>
    have leads : (Loading.inputFault fault).Leads s d registry st.context w [] := ⟨congrArg Prod.fst input, rfl⟩
    exact ⟨_, [], executed_fault leads rfl rfl, rfl⟩
  | @sequenceFault data fault w₁ _ input keywords =>
    have leads : (Loading.sequenceFault fault).Leads s d registry st.context w [] :=
      ⟨data, w₁, input, congrArg Prod.fst keywords, rfl⟩
    exact ⟨_, [], executed_fault leads rfl rfl, rfl⟩
  | @nothing data w₁ w₂ input keywords =>
    have leads : (Loading.loaded []).Leads s d registry st.context w [] :=
      ⟨data, w₁, w₂, _, _, input, keywords, .done⟩
    exact ⟨_, [], executed_fault leads rfl rfl, rfl⟩
  | @steps data sequence w₁ w₂ _ _ _ input keywords listed steps =>
    have legible : ∀ v ∈ sequence, v.Legible := hv d.testId w₁.outer sequence (congrArg Prod.fst keywords)
    obtain ⟨rfl, steps, w₃, dispatches, follows, executions⟩ := steps.dispatches hs hr legible
    have quiet : (Loading.loaded sequence).troubles d = [] := by
      cases sequence with
      | nil => exact absurd rfl listed
      | cons v rest => rfl
    refine ⟨.loaded sequence, steps, ⟨⟨data, w₁, w₂, _, w₃, input, keywords, dispatches⟩, follows, executions,
      dispatches.keeps_reasons hs hr⟩, ?_⟩
    rw [quiet]
    exact dispatches.failures hs hr

theorem meets_attemptKeywords : Meets s.actual (d.attemptKeywords registry) st w fun r st' _ =>
    r = .ok () ∧ ∃ loading steps, Executed s d registry st w loading steps st' ∧
      st'.context.failures = Trouble.addAll st.context.failures
        (loading.troubles d ++ steps.flatMap fun step => step.troubles s registry) := by
  refine (d.meets_attemptKeywords hs hr).mono ?_
  intro _ _ _ told
  obtain ⟨rfl, outcome, left, _, executes, rfl, -⟩ := told
  exact ⟨rfl, executes.told hs hr hv⟩

end

/-! ## The result and the story -/

namespace CaseStory

variable {ω : Type} {s : Surroundings ω} {d : CaseDescriptor}

structure ToldBy (story : CaseStory ω) (s : Surroundings ω) (registry : KeywordRegistry)
    (d : CaseDescriptor) (r : CaseResult) : Prop where
  keywords : r.keywords = story.steps.map (·.record)
  follows : Follows story.loading.keywords story.steps
  history : r.failureHistory = Trouble.addAll [] (story.troubles s registry d)
  reason : r.failureReason = r.failureHistory.head?
  status : r.status = if r.failureHistory.isEmpty then .passed else .failed
  keeps_reasons : ∀ step ∈ story.steps, step.after.failures <+: r.failureHistory

variable {plan : SuitePlan} {unit : UnitId} {w : World ω}
variable (hs : s.Orderly) (hr : plan.registry.Uninterrupted s) (hv : s.source.Legible)
include hs hr hv

theorem meets_runWith : Meets s.actual (d.runWith plan unit) (d.freshState unit) w fun r _ _ =>
    ∃ res story, r = .ok res ∧ Happens story s plan d unit w ∧ ToldBy story s plan.registry d res := by
  let K := fun (opened : World ω) (executed : CaseState) closing =>
    ((d.attemptKeywords plan.registry).run (d.freshState unit)).run s.handle opened = ((.ok (), executed), closing) ∧
      ∃ loading steps, Executed s d plan.registry (d.freshState unit) opened loading steps executed ∧
        executed.context.failures = Trouble.addAll []
          (loading.troubles d ++ steps.flatMap fun step => step.troubles s plan.registry)
  refine (d.meets_runWith_of hs (K := K) fun _ opened _ =>
    (Surroundings.meets_run (meets_attemptKeywords hs hr hv)).mono ?_).mono ?_
  · intro _ executed closing told
    obtain ⟨executes, rfl, told⟩ := told
    exact ⟨rfl, executes, told⟩
  intro _ _ _ told
  obtain ⟨-, res, startedAt, opened, executed, closing, rfl, opens, -, told, concludes⟩ := told
  obtain ⟨executes, loading, steps, told, failures⟩ := told
  let story : CaseStory ω := ⟨startedAt, opened, loading, steps, executed, closing,
    d.recordFault? s plan.metadataKeys startedAt (s.stopwatch w.outer) executed closing⟩
  have history : res.failureHistory = Trouble.addAll executed.context.failures
      (story.recordFault.map Trouble.exception).toList := concludes.history
  refine ⟨res, story, rfl, ⟨opens, told.leads, executes, rfl⟩, ?_, told.follows, ?_, concludes.reason,
    concludes.status, ?_⟩
  · rw [concludes.records, told.executions]
    rfl
  · rw [history, failures, ← Trouble.addAll_append]
    rfl
  · intro step hstep
    rw [history]
    exact (told.keeps_reasons step hstep).trans (Trouble.prefix_addAll _ _)

/-- Every run of a test case has a story, and its result tells it. -/
theorem exists_story (unit : UnitId) (w : World ω) : ∃ r w' story,
    (s.perform (d.run plan unit)).run w = (.ok r, w') ∧ Happens story s plan d unit w ∧
      ToldBy story s plan.registry d r := by
  have met : Meets s.actual (d.runWith plan unit) (d.freshState unit) w _ := meets_runWith hs hr hv
  obtain ⟨_, st, w', hrun, r, story, rfl, happens, told⟩ := Surroundings.exists_of_meets met
  exact ⟨r, w', story, d.run_eq_runWith hrun, happens, told⟩

omit hs hr hv in
theorem Happens.steps_run {story : CaseStory ω} (h : Happens story s plan d unit w) :
    ∀ step ∈ story.steps, step.Runs s plan.registry := by
  have leads := h.leads
  cases hl : story.loading with
  | inputFault fault =>
    rw [hl] at leads
    rw [leads.2]
    exact fun _ h => (List.not_mem_nil h).elim
  | sequenceFault fault =>
    rw [hl] at leads
    obtain ⟨_, _, _, _, none_left⟩ := leads
    rw [none_left]
    exact fun _ h => (List.not_mem_nil h).elim
  | loaded sequence =>
    rw [hl] at leads
    obtain ⟨_, _, _, _, _, _, _, dispatches⟩ := leads
    exact dispatches.runs

omit hv in
theorem Happens.troubles_ne_nil {story : CaseStory ω} (h : Happens story s plan d unit w) :
    story.troubles s plan.registry d ≠ [] ↔
      story.loading.fault?.isSome ∨ story.loading = .loaded [] ∨
      (∃ step ∈ story.steps, step.record.status = .failed) ∨
      (∃ step ∈ story.steps, step.givenReasons s plan.registry ≠ []) ∨ story.recordFault.isSome := by
  have of_step : ∀ step ∈ story.steps, step.troubles s plan.registry ≠ [] ↔
      step.record.status = .failed ∨ step.givenReasons s plan.registry ≠ [] := by
    intro step hstep
    rw [(step.judged hs hr (h.steps_run step hstep)).failed_iff]
    unfold DispatchStep.troubles
    cases step.ownTrouble? s plan.registry <;> simp
  have of_steps : (story.steps.flatMap fun step => step.troubles s plan.registry) ≠ [] ↔
      ∃ step ∈ story.steps, step.record.status = .failed ∨ step.givenReasons s plan.registry ≠ [] := by
    rw [Ne, List.flatMap_eq_nil_iff, Classical.not_forall]
    simp only [Classical.not_imp]
    exact exists_congr fun step => and_congr_right (of_step step)
  have of_record : (story.recordFault.map Trouble.exception).toList ≠ [] ↔ story.recordFault.isSome := by
    cases story.recordFault <;> simp
  -- the troubles of a story come from four places, and there are some if one of these has some
  unfold troubles
  rw [Ne, List.append_eq_nil_iff, List.append_eq_nil_iff, Classical.not_and_iff_not_or_not,
    Classical.not_and_iff_not_or_not, ← Ne, ← Ne, ← Ne, Loading.troubles_ne_nil, of_steps, of_record]
  constructor
  · intro h
    rcases h with ((h | h) | ⟨step, hstep, h | h⟩) | h
    · exact .inl h
    · exact .inr (.inl h)
    · exact .inr (.inr (.inl ⟨step, hstep, h⟩))
    · exact .inr (.inr (.inr (.inl ⟨step, hstep, h⟩)))
    · exact .inr (.inr (.inr (.inr h)))
  · intro h
    rcases h with h | h | ⟨step, hstep, h⟩ | ⟨step, hstep, h⟩ | h
    · exact .inl (.inl (.inl h))
    · exact .inl (.inl (.inr h))
    · exact .inl (.inr ⟨step, hstep, .inl h⟩)
    · exact .inl (.inr ⟨step, hstep, .inr h⟩)
    · exact .inr h

end CaseStory

end KeywordSuite
