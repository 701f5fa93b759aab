import KeywordSuite.Proofs.Case.Completion

/-!
# The sequence of dispatches

What a test case does with the keywords it loaded: it dispatches them one after another, each in the
context that the one before it left. A dispatch ends the sequence exactly if its record is not one of
success and its context has failed, which is so after every record of a failure.
-/

namespace KeywordSuite

/-! ## The keywords of a sequence -/

/-- An entry that is nothing, or has a text. -/
def Value.Legible (v : Value) : Prop := v = .null ∨ ∃ text, v.toText = .ok text

/-- The keyword that an entry names: its text without the blanks around it, if anything is left. -/
def Value.keyword? : Value → Option String
  | .null => none
  | v =>
    match v.toText with
    | .ok t => if Text.strip t = "" then none else some (Text.strip t)
    | .error _ => none

/-- The keywords of a sequence, without its blank entries. -/
def keywordsOf (sequence : List Value) : List String := sequence.filterMap Value.keyword?

theorem keywordText_of_legible {v : Value} (h : v.Legible) : CaseDescriptor.keywordText v = .ok v.keyword? := by
  rcases h with rfl | ⟨t, ht⟩
  · rfl
  · unfold CaseDescriptor.keywordText Value.keyword?
    split
    · rfl
    · simp only [Value.textOrFault, ht]
      rfl

theorem legible_of_keywordText {v : Value} {keyword : Option String}
    (h : CaseDescriptor.keywordText v = .ok keyword) : v.Legible := by
  unfold CaseDescriptor.keywordText Value.textOrFault at h
  split at h
  · exact .inl rfl
  · cases ht : v.toText with
    | ok text => exact .inr ⟨text, ht⟩
    | error fault =>
      rw [ht] at h
      cases h

theorem keyword?_of_keywordText {v : Value} {keyword : Option String}
    (h : CaseDescriptor.keywordText v = .ok keyword) : v.keyword? = keyword :=
  Except.ok.inj ((keywordText_of_legible (legible_of_keywordText h)).symm.trans h)

theorem keywordsOf_cons (v : Value) (rest : List Value) :
    keywordsOf (v :: rest) = v.keyword?.toList ++ keywordsOf rest := by
  unfold keywordsOf
  cases h : v.keyword? with
  | none => rw [List.filterMap_cons_none h]; rfl
  | some keyword => rw [List.filterMap_cons_some h]; rfl

/-! ## Dispatches one after another -/

/-- A dispatch: of which keyword, where it began, its record, and where it ended. -/
structure DispatchStep (ω : Type) where
  keyword : String
  before : Context
  world : World ω
  record : KeywordExecution
  after : Context
  left : World ω

namespace DispatchStep

variable {ω : Type} (step : DispatchStep ω)

/-- The record is not one of success, and the context has failed. -/
def Stops : Prop := step.record.succeeded = false ∧ step.after.passed = false

variable (s : Surroundings ω) (registry : KeywordRegistry)

def Runs : Prop :=
  ((registry.dispatch (some step.keyword)).run step.before).run s.handle step.world =
    ((.ok step.record, step.after), step.left)

def givenReasons : List String := registry.givenReasons s step.keyword step.before step.world

/-- What the dispatcher found wrong: an unknown keyword, a fault, or a mandatory keyword that failed. -/
def ownTrouble? : Option Trouble := registry.ownTrouble? s step.keyword step.before step.world

/-- Everything that the dispatch fails the test case with, in the order it happens. -/
def troubles : List Trouble :=
  (step.givenReasons s registry).map .certain ++ (step.ownTrouble? s registry).toList

end DispatchStep

section

variable {ω : Type} (s : Surroundings ω) (d : CaseDescriptor) (registry : KeywordRegistry)

/-- Dispatches one after another, each announced to the report before and told to it after. -/
inductive Dispatches : Context → World ω → List (DispatchStep ω) → Context → World ω → Prop
  | done {c : Context} {w : World ω} : Dispatches c w [] c w
  | step {c : Context} {w w' : World ω} {rest : List (DispatchStep ω)} {c' : Context} {w'' : World ω}
      {answer : Option String} (step : DispatchStep ω)
      (begins : step.before = c)
      (announces : (s.perform (tellReport (.log .info d.testId d.testName
        ("Executing keyword: " ++ step.keyword)))).run w = (.ok answer, step.world))
      (runs : step.Runs s registry)
      (reports : (s.perform (d.reportExecution step.record)).run step.left = (.ok (), w'))
      (goes_on : Dispatches step.after w' rest c' w'') :
      Dispatches c w (step :: rest) c' w''

/-- How dispatches go through keywords: in order, on to the end unless the last one stops them. -/
structure Follows (keywords : List String) (steps : List (DispatchStep ω)) : Prop where
  in_order : steps.map (·.keyword) <+: keywords
  goes_on : ∀ step ∈ steps.dropLast, ¬ step.Stops
  ends : steps.map (·.keyword) = keywords ∨ ∃ last, steps.getLast? = some last ∧ last.Stops

variable {s d registry} {keywords : List String} {steps : List (DispatchStep ω)}

theorem follows_nil : Follows [] ([] : List (DispatchStep ω)) :=
  ⟨List.prefix_rfl, fun _ h => (List.not_mem_nil h).elim, .inl rfl⟩

theorem follows_stop {step : DispatchStep ω} (h : step.Stops) (keywords : List String) :
    Follows (step.keyword :: keywords) [step] :=
  ⟨by simp, fun _ h => (List.not_mem_nil h).elim, .inr ⟨step, rfl, h⟩⟩

theorem Follows.cons {step : DispatchStep ω} (h : ¬ step.Stops) (rest : Follows keywords steps) :
    Follows (step.keyword :: keywords) (step :: steps) := by
  constructor
  case in_order =>
    rw [List.map_cons, List.cons_prefix_cons]
    exact ⟨rfl, rest.in_order⟩
  case goes_on =>
    cases steps with
    | nil => intro other h; cases h
    | cons next steps =>
      intro other ho
      rw [List.dropLast_cons_cons] at ho
      rcases List.mem_cons.1 ho with rfl | ho
      · exact h
      · exact rest.goes_on other ho
  case ends =>
    rcases rest.ends with all | ⟨last, hl, stops⟩
    · exact .inl (by rw [List.map_cons, all])
    · refine .inr ⟨last, ?_, stops⟩
      rw [List.getLast?_cons, hl]
      rfl

/-! ## What is true of each step -/

variable (hs : s.Orderly) (hr : registry.Uninterrupted s)
include hs hr

theorem DispatchStep.judged {step : DispatchStep ω} (h : step.Runs s registry) :
    Judged (step.ownTrouble? s registry) (step.before.failures ++ step.givenReasons s registry)
      step.record.status step.record.reason step.after.failures := by
  obtain ⟨_, _, _, run_eq, e, rfl, judged⟩ := Surroundings.exists_of_meets
    (meets_dispatch (c := step.before) (w := step.world) hs hr step.keyword)
  cases h.symm.trans run_eq
  exact judged

theorem DispatchStep.stops_of_failed {step : DispatchStep ω} (h : step.Runs s registry)
    (failed : step.record.status = .failed) : step.Stops := by
  obtain ⟨reason, mem, -⟩ := (step.judged hs hr h).reason_mem failed
  refine ⟨by rw [KeywordExecution.succeeded, failed]; rfl, ?_⟩
  unfold Context.passed
  cases hf : step.after.failures with
  | nil => rw [hf] at mem; cases mem
  | cons first rest => rfl

theorem DispatchStep.failures {step : DispatchStep ω} (h : step.Runs s registry) :
    step.after.failures = Trouble.addAll step.before.failures (step.troubles s registry) := by
  rw [(step.judged hs hr h).history, troubles, Trouble.addAll_append, Trouble.addAll_certain]

omit hs hr in
theorem Dispatches.runs {c c' : Context} {w w' : World ω} (h : Dispatches s d registry c w steps c' w') :
    ∀ step ∈ steps, step.Runs s registry := by
  induction h with
  | done => exact fun _ h => (List.not_mem_nil h).elim
  | step step _ _ runs _ _ ih => exact List.forall_mem_cons.2 ⟨runs, ih⟩

theorem Dispatches.failures {c c' : Context} {w w' : World ω}
    (h : Dispatches s d registry c w steps c' w') :
    c'.failures = Trouble.addAll c.failures (steps.flatMap fun step => step.troubles s registry) := by
  induction h with
  | done => rfl
  | step step begins _ runs _ _ ih =>
    rw [List.flatMap_cons, Trouble.addAll_append, ← begins, ← step.failures hs hr runs]
    exact ih

theorem Dispatches.keeps_reasons {c c' : Context} {w w' : World ω}
    (h : Dispatches s d registry c w steps c' w') :
    ∀ step ∈ steps, step.after.failures <+: c'.failures := by
  induction h with
  | done => exact fun _ h => (List.not_mem_nil h).elim
  | step step _ _ _ _ goes_on ih =>
    refine List.forall_mem_cons.2 ⟨?_, ih⟩
    rw [goes_on.failures hs hr]
    exact Trouble.prefix_addAll _ _

/-! ## The loop -/

theorem CaseDescriptor.Steps.dispatches {sequence : List Value} {st st' : CaseState} {w w' : World ω}
    {r : Except Fault Unit} (h : d.Steps s registry sequence st w r st' w') : (∀ v ∈ sequence, v.Legible) →
      r = .ok () ∧ ∃ steps w₁, Dispatches s d registry st.context w steps st'.context w₁ ∧
        Follows (keywordsOf sequence) steps ∧ st'.executions = st.executions ++ steps.map (·.record) := by
  induction h with
  | done => exact fun _ => ⟨rfl, [], _, .done, follows_nil, (List.append_nil _).symm⟩
  | skip blank _ ih =>
    intro legible
    rw [keywordsOf_cons, keyword?_of_keywordText blank]
    exact ih fun v mem => legible v (List.mem_cons_of_mem _ mem)
  | refuse textless =>
    intro legible
    cases textless.symm.trans (keywordText_of_legible (legible _ List.mem_cons_self))
  -- a dispatch always ends in a record here
  | raise _ raises =>
    obtain ⟨_, recorded⟩ := CaseDescriptor.exists_record hs hr raises
    cases recorded
  | @stop _ _ st _ w₁ w₂ w₃ keyword e c named dispatched stops =>
    intro _
    obtain ⟨⟨_, announces⟩, runs, reports⟩ := dispatched
    let step : DispatchStep ω := ⟨keyword, st.context, w₁, e, c, w₂⟩
    have stops : step.Stops := stops
    rw [keywordsOf_cons, keyword?_of_keywordText named]
    exact ⟨rfl, [step], w₃, .step step rfl announces runs reports .done, follows_stop stops _, rfl⟩
  | @next _ _ st _ _ w₁ w₂ _ _ keyword e c _ named dispatched goes_on _ ih =>
    intro legible
    obtain ⟨⟨_, announces⟩, runs, reports⟩ := dispatched
    let step : DispatchStep ω := ⟨keyword, st.context, w₁, e, c, w₂⟩
    have goes_on : ¬ step.Stops := goes_on
    obtain ⟨rfl, steps, w', dispatches, follows, executions⟩ :=
      ih fun v mem => legible v (List.mem_cons_of_mem _ mem)
    rw [keywordsOf_cons, keyword?_of_keywordText named]
    refine ⟨rfl, step :: steps, w', .step step rfl announces runs reports dispatches, follows.cons goes_on, ?_⟩
    rw [executions, List.append_assoc]
    rfl

end

end KeywordSuite
