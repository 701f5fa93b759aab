import KeywordSuite.Proofs.Case.Stages
import KeywordSuite.Proofs.Keyword.Lookups

/-!
# Test cases and the order of what is loaded

In which order the input of a test case is loaded and where its keywords have blanks is nothing to the test case:
it does the same and comes to the same result.
-/

namespace KeywordSuite

namespace CaseDescriptor

/-- What a sequence says to do: its keywords without the blank ones. What has no text is a fault in its place. -/
def said (sequence : List Value) : List (Except Fault String) :=
  sequence.filterMap fun v =>
    match keywordText v with
    | .ok none => none
    | .ok (some keyword) => some (.ok keyword)
    | .error fault => some (.error fault)

/-- Sequences that say the same, none of them empty unless both are. -/
def SameSequence (sequence sequence' : List Value) : Prop :=
  said sequence = said sequence' ∧ (sequence = [] ↔ sequence' = [])

variable (d : CaseDescriptor) (registry : KeywordRegistry)

def runSaid : List (Except Fault String) → CaseProcedure Unit
  | [] => return ()
  | r :: rest => do
    let keyword ← CaseProcedure.ofExcept r
    let _ ← CaseProcedure.shared
      (tellReport (.log .info d.testId d.testName ("Executing keyword: " ++ keyword)))
    let e ← CaseProcedure.onContext (registry.dispatch (some keyword))
    modify fun s => { s with executions := s.executions ++ [e] }
    CaseProcedure.shared (d.reportExecution e)
    if !e.succeeded && !(← get).context.passed then
      CaseProcedure.log .error ("Stopping test execution due to keyword failure: " ++ keyword)
    else runSaid rest

theorem runKeywords_eq_runSaid : ∀ sequence : List Value,
    d.runKeywords registry sequence = d.runSaid registry (said sequence)
  | [] => rfl
  | v :: rest => by
    have others := runKeywords_eq_runSaid rest
    unfold runKeywords said
    rw [List.filterMap_cons]
    cases keywordText v with
    | error fault => rfl
    | ok text =>
      cases text with
      | none => exact others
      | some keyword =>
        rw [others]
        rfl

end CaseDescriptor

/-- Only what loading answers is changed: the order of an input, and the blanks of a sequence. -/
structure Rearranges (h : (op : SharedOp) → op.Reply → op.Reply) : Prop where
  plain : ∀ op : SharedOp, op.isLoad = false → h op = id
  input : ∀ testId data, Entries.SameMapping data (h (.loadInput testId) data)
  keywords : ∀ testId sequence, CaseDescriptor.SameSequence sequence (h (.loadKeywords testId) sequence)

section

variable {h : (op : SharedOp) → op.Reply → op.Reply} {α β : Type}

/-! ## Shared procedures -/

/-- A shared procedure that loads nothing. -/
abbrev SharedProcedure.LoadsNothing (p : SharedProcedure α) : Prop := Procedure.Only (fun op => op.isLoad = false) p

namespace SharedProcedure

theorem loadsNothing_perform {op : SharedOp} (other : op.isLoad = false) : LoadsNothing (perform op) :=
  Procedure.only_perform other

theorem loadsNothing_log (level : LogLevel) (message : String) : LoadsNothing (log level message) :=
  loadsNothing_perform rfl

theorem loadsNothing_tellReport (call : ReportCall) : LoadsNothing (tellReport call) :=
  only_tellReport (fun _ _ => rfl) rfl

theorem loadsNothing_informAll (news : SuiteNews) : ∀ names n, LoadsNothing (informAll news n names)
  | [], _ => Procedure.only_pure ()
  | _ :: rest, n => by
    have informs : LoadsNothing (perform (.inform n news)) := loadsNothing_perform rfl
    refine informs.attempt.bind fun told => ?_
    cases told with
    | ok _ => exact loadsNothing_informAll news rest (n + 1)
    | error fault => exact (loadsNothing_log _ _).bind fun _ => loadsNothing_informAll news rest (n + 1)

theorem loadsNothing_reportExecution (d : CaseDescriptor) (e : KeywordExecution) : LoadsNothing (d.reportExecution e) :=
  only_reportExecution (fun _ _ => rfl) (fun _ => rfl) d e

theorem loadsNothing_captureFailure (r : CaseResult) (u : UnitId) : LoadsNothing (CaseDescriptor.captureFailure r u) :=
  only_captureFailure (fun _ _ => rfl) rfl

theorem loadsNothing_reportOutcome (listeners : List String) (r : CaseResult) (u : UnitId) :
    LoadsNothing (CaseDescriptor.reportOutcome listeners r u) := by
  have finishes : ∀ call, LoadsNothing (do let _ ← tellReport call; informAll (.result r) 0 listeners) :=
    fun call => (loadsNothing_tellReport call).bind fun _ => loadsNothing_informAll _ _ _
  unfold CaseDescriptor.reportOutcome
  split
  · exact finishes _
  · refine (loadsNothing_captureFailure r u).bind fun path => ?_
    split
    · exact finishes _
    · exact finishes _
    · exact (loadsNothing_tellReport _).bind fun _ => finishes _

end SharedProcedure

/-! ## Procedures of a test case -/

/-- Test cases with the same records, in contexts that are the same to whoever asks for a key. -/
def CaseState.Equivalent (st st' : CaseState) : Prop :=
  st.context.Equivalent st'.context ∧ st.executions = st'.executions

abbrev CaseSteps (h : (op : SharedOp) → op.Reply → op.Reply) (p q : CaseProcedure α) : Prop :=
  StepsIn h CaseState.Equivalent p q

theorem steps_onContext {p q : ContextProcedure α} (step : ContextSteps h p q) :
    CaseSteps h (.onContext p) (.onContext q) := by
  rintro ⟨c, executions⟩ ⟨c', _⟩ ⟨same, rfl⟩
  refine Coupled.bind (step c c' same) ?_
  rintro _ ⟨r, _⟩ ⟨_, _⟩ ⟨rfl, same⟩
  exact .done ⟨rfl, same, rfl⟩

/-- An operation of which the second test case hears more or less, and what either does after it. -/
theorem steps_heard {op : SharedOp} {f g : op.Reply → CaseProcedure α} (rest : ∀ a, CaseSteps h (f a) (g (h op a))) :
    CaseSteps h (CaseProcedure.perform op >>= f) (CaseProcedure.perform op >>= g) := by
  intro st st' same
  refine .both (.same op) ?_
  rintro reply _ ⟨⟩ rfl
  cases reply with
  | ok a => exact rest a st st' same
  | error fault => exact .done ⟨rfl, same⟩

theorem steps_caseOfExcept (r : Except Fault α) : CaseSteps h (.ofExcept r) (.ofExcept r) := by
  cases r with
  | ok a => exact steps_pure a
  | error fault => exact steps_throw fault

theorem StepsIn.caseAttempt {p q : CaseProcedure α} (step : CaseSteps h p q) : CaseSteps h p.attempt q.attempt := by
  intro st st' same
  refine Coupled.bind (step st st' same) ?_
  rintro _ ⟨r, _⟩ ⟨_, _⟩ ⟨rfl, same⟩
  cases r <;> exact .done ⟨rfl, same⟩

theorem StepsIn.andFinally {p q : CaseProcedure α} {last : CaseProcedure Unit} (step : CaseSteps h p q)
    (ends : CaseSteps h last last) : CaseSteps h (p.andFinally last) (q.andFinally last) := by
  intro st st' same
  refine Coupled.bind (step st st' same) ?_
  rintro _ ⟨r, st₁⟩ ⟨_, st₁'⟩ ⟨rfl, same⟩
  refine Coupled.bind (ends st₁ st₁' same) ?_
  rintro _ ⟨r', _⟩ ⟨_, _⟩ ⟨rfl, same⟩
  cases r' <;> exact .done ⟨rfl, same⟩

variable (plain : ∀ op : SharedOp, op.isLoad = false → h op = id)
include plain

theorem steps_caseShared {p : SharedProcedure α} (hp : p.LoadsNothing) : CaseSteps h (.shared p) (.shared p) :=
  steps_onContext (steps_shared (Program.Only.mono plain hp))

theorem steps_casePerform {op : SharedOp} (other : op.isLoad = false) : CaseSteps h (.perform op) (.perform op) :=
  steps_caseShared plain (SharedProcedure.loadsNothing_perform other)

theorem steps_caseLog (level : LogLevel) (message : String) : CaseSteps h (.log level message) (.log level message) :=
  steps_casePerform plain rfl

theorem steps_caseFail (reason : String) : CaseSteps h (.fail reason) (.fail reason) :=
  steps_onContext (steps_contextFail plain reason)

/-! ## Dispatching keywords that load nothing -/

theorem steps_judge (e : KeywordEntry) (returned : Value) :
    ContextSteps h (KeywordRegistry.judge e returned) (KeywordRegistry.judge e returned) := by
  have logs : ∀ level message, ContextSteps h (.log level message) (.log level message) :=
    fun _ _ => steps_perform (plain _ rfl)
  unfold KeywordRegistry.judge
  split
  · exact (logs _ _).bind fun _ => steps_pure _
  · split <;> exact (logs _ _).bind fun _ => steps_pure _
  · split
    · refine (logs _ _).bind fun _ => steps_get ?_
      rintro c _ ⟨input, rfl, same⟩
      dsimp only [Context.failureReason]
      split
      · exact (steps_contextFail plain _).bind fun _ => steps_pure _
      · exact steps_pure _
    · exact (logs _ _).bind fun _ => steps_pure _

theorem steps_runEntry {e : KeywordEntry} (he : e.LoadsNothing) :
    ContextSteps h (KeywordRegistry.runEntry e) (KeywordRegistry.runEntry e) := by
  have logs : ∀ level message, ContextSteps h (.log level message) (.log level message) :=
    fun _ _ => steps_perform (plain _ rfl)
  have watch : ContextSteps h (.perform .stopwatch) (.perform .stopwatch) := steps_perform (plain _ rfl)
  have concludes : ∀ recorded, ContextSteps h (KeywordRegistry.conclude recorded) (KeywordRegistry.conclude recorded) :=
    fun _ _ _ same => .done ⟨rfl, same⟩
  unfold KeywordRegistry.runEntry
  refine (logs _ _).bind fun _ => watch.bind fun start => steps_get ?_
  rintro c _ ⟨input, rfl, same⟩
  refine (he.steps plain c.identity).attempt.bind fun outcome => watch.bind fun stop => ?_
  cases outcome with
  | error fault => exact (logs _ _).bind fun _ => (steps_contextFail plain _).bind fun _ => concludes _
  | ok returned => exact (logs _ _).bind fun _ => (steps_judge plain e returned).bind fun _ => concludes _

theorem steps_dispatch {registry : KeywordRegistry} (hr : registry.LoadsNothing) (name : Option String) :
    ContextSteps h (registry.dispatch name) (registry.dispatch name) := by
  unfold KeywordRegistry.dispatch
  split
  · exact (steps_perform (plain _ rfl)).bind fun _ => (steps_contextFail plain _).bind fun _ => steps_pure _
  · rename_i e found
    exact steps_runEntry plain (hr name e found)

end

/-! ## The stages of a test case -/

section

variable {h : (op : SharedOp) → op.Reply → op.Reply} (rearranges : Rearranges h) (d : CaseDescriptor)
include rearranges

theorem steps_runSaid {registry : KeywordRegistry} (hr : registry.LoadsNothing) :
    ∀ sequence : List (Except Fault String), CaseSteps h (d.runSaid registry sequence) (d.runSaid registry sequence)
  | [] => steps_pure ()
  | r :: rest => by
    have others := steps_runSaid hr rest
    have plain := rearranges.plain
    have ends : ∀ (stops : Bool) (message : String),
        CaseSteps h (if stops then CaseProcedure.log .error message else d.runSaid registry rest)
          (if stops then CaseProcedure.log .error message else d.runSaid registry rest) := by
      intro stops message
      cases stops with
      | true => exact steps_caseLog plain _ _
      | false => exact others
    refine (steps_caseOfExcept r).bind fun keyword => ?_
    refine (steps_caseShared plain (SharedProcedure.loadsNothing_tellReport _)).bind fun _ => ?_
    refine (steps_onContext (steps_dispatch plain hr _)).bind fun e => ?_
    refine (steps_modify fun st st' same => ⟨same.1, congrArg (· ++ [e]) same.2⟩).bind fun _ => ?_
    refine (steps_caseShared plain (SharedProcedure.loadsNothing_reportExecution d e)).bind fun _ => steps_get ?_
    rintro ⟨c, executions⟩ ⟨_, _⟩ ⟨⟨input, rfl, same⟩, rfl⟩
    exact ends (!e.succeeded && !c.passed) _

theorem steps_execute {registry : KeywordRegistry} (hr : registry.LoadsNothing) :
    CaseSteps h (d.execute registry) (d.execute registry) := by
  unfold CaseDescriptor.execute
  refine steps_heard fun data => ?_
  refine (steps_modify fun st st' same => ⟨same.1.setInput (rearranges.input d.testId data), same.2⟩).bind fun _ => ?_
  refine steps_heard fun sequence => ?_
  obtain ⟨said, empty⟩ := rearranges.keywords d.testId sequence
  generalize h (.loadKeywords d.testId) sequence = sequence' at said empty ⊢
  cases sequence with
  | nil =>
    obtain rfl := empty.1 rfl
    exact steps_caseFail rearranges.plain _
  | cons v rest =>
    cases sequence' with
    | nil => cases empty.2 rfl
    | cons v' rest' =>
      dsimp only
      rw [d.runKeywords_eq_runSaid registry (v :: rest), d.runKeywords_eq_runSaid registry (v' :: rest'), said]
      exact steps_runSaid rearranges d hr _

theorem steps_attemptKeywords {registry : KeywordRegistry} (hr : registry.LoadsNothing) :
    CaseSteps h (d.attemptKeywords registry) (d.attemptKeywords registry) := by
  refine (steps_execute rearranges d hr).caseAttempt.bind fun r => ?_
  cases r with
  | ok _ => exact steps_pure _
  | error fault => exact (steps_caseLog rearranges.plain _ _).bind fun _ => steps_caseFail rearranges.plain _

omit rearranges in
theorem collectMetadata_input (c : Context) (input : Entries Value) : ∀ keys found,
    CaseDescriptor.collectMetadata { c with input } keys found = CaseDescriptor.collectMetadata c keys found
  | [], _ => rfl
  | key :: keys, found => by
    unfold CaseDescriptor.collectMetadata
    simp only [collectMetadata_input c input keys]

theorem steps_recordResult (keys : List String) (startedAt : Timestamp) (start : Float) :
    CaseSteps h (d.recordResult keys startedAt start) (d.recordResult keys startedAt start) := by
  have now : CaseSteps h (.perform .now) (.perform .now) := steps_casePerform rearranges.plain rfl
  have watch : CaseSteps h (.perform .stopwatch) (.perform .stopwatch) := steps_casePerform rearranges.plain rfl
  have builds : CaseSteps h (d.buildResult keys startedAt start) (d.buildResult keys startedAt start) := by
    refine steps_get ?_
    rintro ⟨c, executions⟩ ⟨_, _⟩ ⟨⟨input, rfl, same⟩, rfl⟩
    dsimp only
    rw [collectMetadata_input c input]
    exact (steps_caseOfExcept _).bind fun _ => now.bind fun _ => watch.bind fun _ => steps_caseOfExcept _
  refine builds.caseAttempt.bind fun r => ?_
  cases r with
  | ok r => exact steps_pure r
  | error fault =>
    refine (steps_caseLog rearranges.plain _ _).bind fun _ => (steps_caseFail rearranges.plain _).bind fun _ => ?_
    refine steps_get ?_
    rintro ⟨c, executions⟩ ⟨_, _⟩ ⟨⟨input, rfl, same⟩, rfl⟩
    exact now.bind fun _ => watch.bind fun _ => steps_caseOfExcept _

/-! ## The whole test case -/

variable {plan : SuitePlan}

/-- A test case is the same program, whether it hears what it loads as it is or rearranged. -/
theorem mapReplies_program (hr : plan.registry.LoadsNothing) (u : UnitId) :
    (ExceptT.run (d.run plan u)).mapReplies h = ExceptT.run (d.run plan u) := by
  have plain := rearranges.plain
  have stages : ∀ startedAt start, CaseSteps h (d.stages plan u startedAt start) (d.stages plan u startedAt start) := by
    intro startedAt start
    refine (steps_attemptKeywords rearranges d hr).bind fun _ => (steps_recordResult rearranges d _ _ _).bind fun r => ?_
    exact (steps_caseShared plain (SharedProcedure.loadsNothing_reportOutcome _ r u)).bind fun _ => steps_pure r
  have releases : CaseSteps h (CaseDescriptor.release u) (CaseDescriptor.release u) :=
    (steps_onContext (steps_cleanUp plain)).bind fun _ => steps_casePerform plain rfl
  have runs : CaseSteps h (d.runWith plan u) (d.runWith plan u) := by
    unfold CaseDescriptor.runWith
    simp only [CaseDescriptor.conclude_eq_stages]
    refine (steps_casePerform plain rfl).bind fun startedAt => (steps_casePerform plain rfl).bind fun start => ?_
    refine (steps_caseLog plain _ _).bind fun _ => ?_
    refine (steps_caseShared plain (SharedProcedure.loadsNothing_tellReport _)).bind fun _ => ?_
    refine ((stages startedAt start).andFinally releases).bind fun r => ?_
    exact (steps_caseLog plain _ _).bind fun _ => steps_pure r
  have step : InStep h Eq (ExceptT.run (d.run plan u)) (ExceptT.run (d.run plan u)) := by
    refine Coupled.bind (runs (d.freshState u) (d.freshState u) ⟨.refl _, rfl⟩) ?_
    rintro _ ⟨r, _⟩ ⟨_, _⟩ ⟨rfl, -⟩
    exact .done rfl
  exact step.eq_mapReplies.symm

end

end KeywordSuite
