import KeywordSuite.Proofs.Case.Result
import KeywordSuite.Proofs.Case.Silence
import KeywordSuite.Proofs.Keyword.Discretion

/-!
# Test cases that tell the report of themselves

With discreet keywords a test case tells the report of itself only, and where it comes to a result, that is the
mark it has in the end.
-/

namespace KeywordSuite

section

variable {α β : Type} {testId : String} {mark : Option CaseMark}

/-! ## What leaves the mark -/

theorem untold_of_silent {op : SharedOp} (silent : op.isTelling = false) (call : ReportCall) : op ≠ .report call := by
  rintro rfl
  cases silent

theorem ProgramSilent.marking {p : Program SharedOp.Reply α} (silent : p.Keeps silentProtocol () fun _ _ => True) :
    p.Keeps (marking testId) mark fun _ next => next = mark := by
  induction p with
  | done a => rfl
  | call op resume ih =>
    obtain ⟨_, quiet, rest⟩ := silent
    have untold := untold_of_silent quiet
    refine ⟨mark, ⟨SharedOp.about_of_untold untold _, (SharedOp.leaves_of_untold untold mark).symm⟩, fun reply _ => ?_⟩
    exact ih reply (rest reply trivial)

theorem Silent.marking {σ : Type} {p : ExceptT Fault (StateT σ (Program SharedOp.Reply)) α} (hp : Silent p) (x : σ) :
    Meets (marking testId) p x mark fun _ _ next => next = mark := ProgramSilent.marking (hp x)

theorem keeps_perform_aside {op : SharedOp} (untold : ∀ call, op ≠ .report call) :
    (ExceptT.run (SharedProcedure.perform op)).Keeps (marking testId) mark fun _ next => next = mark :=
  keeps_perform.2 ⟨_, ⟨SharedOp.about_of_untold untold _, rfl⟩, fun _ _ => SharedOp.leaves_of_untold untold mark⟩

theorem keeps_then {p : SharedProcedure α} {f : α → SharedProcedure β} {I : Option CaseMark → Prop}
    (hp : (ExceptT.run p).Keeps (marking testId) mark fun _ next => I next)
    (hf : ∀ a next, I next → (ExceptT.run (f a)).Keeps (marking testId) next fun _ last => I last) :
    (ExceptT.run (p >>= f)).Keeps (marking testId) mark fun _ next => I next := by
  refine keeps_seq.2 (Program.Keeps.mono (fun r next here => ?_) hp)
  cases r with
  | ok a => exact hf a next here
  | error fault => exact here

theorem keeps_shared_log (level : LogLevel) (message : String) :
    (ExceptT.run (SharedProcedure.log level message)).Keeps (marking testId) mark fun _ next => next = mark :=
  keeps_perform_aside (by simp)

theorem keeps_attempt_of {p : SharedProcedure α} {I : Option CaseMark → Prop}
    (hp : (ExceptT.run p).Keeps (marking testId) mark fun _ next => I next) :
    (ExceptT.run p.attempt).Keeps (marking testId) mark fun _ next => I next := keeps_attempt.2 hp

theorem keeps_tellReport_marking {call : ReportCall} (own : call.testId? = some testId) :
    (ExceptT.run (tellReport call)).Keeps (marking testId) mark fun _ next => next = call.leaves mark := by
  have about : SharedOp.About testId (.report call) := by
    intro other same
    cases same
    exact own
  refine keeps_then (keeps_attempt_of (keeps_perform.2 ⟨_, ⟨about, rfl⟩, fun _ _ => rfl⟩)) fun told next here => ?_
  subst here
  cases told with
  | ok answer => exact rfl
  | error fault => exact keeps_then (keeps_shared_log _ _) fun _ _ here => here

theorem keeps_informAll_marking (news : SuiteNews) (n : Nat) (names : List String) :
    (ExceptT.run (informAll news n names)).Keeps (marking testId) mark fun _ next => next = mark := by
  induction names generalizing n with
  | nil => exact rfl
  | cons name rest ih =>
    refine keeps_then (keeps_attempt_of (keeps_perform_aside (by simp))) fun told next here => ?_
    rw [here]
    cases told with
    | ok _ => exact ih (n + 1)
    | error fault =>
      refine keeps_then (keeps_shared_log _ _) fun _ next here => ?_
      rw [here]
      exact ih (n + 1)

theorem keeps_captureFailure_marking (r : CaseResult) (u : UnitId) :
    (ExceptT.run (CaseDescriptor.captureFailure r u)).Keeps (marking testId) mark fun _ next => next = mark := by
  refine keeps_then (keeps_attempt_of (keeps_perform_aside (by simp))) fun captured next here => ?_
  subst here
  cases captured with
  | ok path => exact rfl
  | error fault => exact keeps_then (keeps_shared_log _ _) fun _ _ here => here

/-- Whatever was told before, reporting a result leaves the mark of the result. -/
theorem keeps_reportOutcome_marking (listeners : List String) {r : CaseResult} (own : r.testId = testId) (u : UnitId) :
    (ExceptT.run (CaseDescriptor.reportOutcome listeners r u)).Keeps (marking testId) mark fun told next =>
      told = .ok () → next = some (.ofStatus r.status) := by
  have finishes : ∀ mark status details, r.status = status →
      (ExceptT.run (do
        let _ ← tellReport (.finishCase status r.testId r.testName details)
        informAll (.result r) 0 listeners)).Keeps (marking testId) mark fun told next =>
          told = .ok () → next = some (.ofStatus r.status) := by
    intro mark status details same
    subst same
    refine keeps_seq.2 (Program.Keeps.mono (fun told next here => ?_) (keeps_tellReport_marking (congrArg some own)))
    subst here
    cases told with
    | ok _ =>
      dsimp only
      refine Program.Keeps.mono (fun _ _ here _ => ?_) (keeps_informAll_marking _ _ _)
      exact here
    | error fault => exact fun never => by cases never
  -- Each way through ends in finishing the test case with its status, and the last mark counts.
  unfold CaseDescriptor.reportOutcome
  split
  · rename_i passed
    exact finishes _ _ _ (eq_of_beq passed)
  · rename_i failed
    have status : r.status = .failed := by
      cases st : r.status with
      | failed => rfl
      | passed => exact absurd (by rw [CaseResult.passed, st]; rfl) failed
    refine keeps_seq.2 (Program.Keeps.mono (fun captured next _ => ?_) (keeps_captureFailure_marking r u))
    cases captured with
    | error fault => exact fun never => by cases never
    | ok path =>
      dsimp only
      split
      · exact finishes _ _ _ status
      · exact finishes _ _ _ status
      · refine keeps_seq.2 (Program.Keeps.mono (fun told next _ => ?_) (keeps_tellReport_marking (congrArg some own)))
        cases told with
        | ok _ => exact finishes _ _ _ status
        | error fault => exact fun never => by cases never

end

/-! ## Dispatching discreet keywords -/

section

variable {id : CaseIdentity}

theorem discreet_judge (e : KeywordEntry) (returned : Value) :
    Discreet id Context.identity (fun _ => True) (KeywordRegistry.judge e returned) := by
  have logs : ∀ level message (x : KeywordStatus × Option String), Discreet id Context.identity (fun _ => True) (do
      ContextProcedure.log level message; return x : ContextProcedure (KeywordStatus × Option String)) :=
    fun level message x => (discreet_contextLog level message).bind fun _ _ => discreet_pure trivial
  unfold KeywordRegistry.judge
  split
  · exact logs _ _ _
  · split <;> exact logs _ _ _
  · split
    · refine (discreet_contextLog _ _).bind fun _ _ => discreet_get.bind fun c _ => ?_
      split
      · exact (discreet_contextFail _).bind fun _ _ => discreet_pure trivial
      · exact discreet_pure trivial
    · exact logs _ _ _

theorem discreet_conclude (e : Except Fault KeywordExecution) :
    Discreet id Context.identity (fun _ => True) (KeywordRegistry.conclude e) :=
  fun _ _ own => ⟨own, fun _ _ => trivial⟩

theorem discreet_runEntry {e : KeywordEntry} (h : TellsOf id (e.body id)) :
    Discreet id Context.identity (fun _ => True) (KeywordRegistry.runEntry e) := by
  unfold KeywordRegistry.runEntry
  refine (discreet_contextLog _ _).bind fun _ _ => (discreet_aside (by simp)).bind fun start _ => ?_
  refine discreet_get.bind fun c own => ?_
  rw [own]
  refine (discreet_attempt h.discreet).bind fun outcome _ => (discreet_aside (by simp)).bind fun stop _ => ?_
  cases outcome with
  | error fault =>
    refine (discreet_contextLog _ _).bind fun _ _ => (discreet_contextFail _).bind fun _ _ => ?_
    exact discreet_conclude _
  | ok returned =>
    refine (discreet_contextLog _ _).bind fun _ _ => (discreet_judge e returned).bind fun _ _ => ?_
    exact discreet_conclude _

theorem discreet_dispatch {registry : KeywordRegistry} (h : registry.Discreet) (name : Option String) :
    Discreet id Context.identity (fun _ => True) (registry.dispatch name) := by
  unfold KeywordRegistry.dispatch
  split
  · exact (discreet_contextLog _ _).bind fun _ _ => (discreet_contextFail _).bind fun _ _ => discreet_pure trivial
  · rename_i e found
    exact discreet_runEntry (h name e found id)

end

/-! ## The stages of a test case -/

def CaseState.identity (st : CaseState) : CaseIdentity := st.context.identity

section

variable {α : Type} {id : CaseIdentity} {R : α → Prop}

theorem discreet_onContext {p : ContextProcedure α} (hp : Discreet id Context.identity R p) :
    Discreet id CaseState.identity R (CaseProcedure.onContext p) :=
  fun st mark own => meets_onContext.2 (hp st.context mark own)

theorem discreet_casePerform {op : SharedOp} (untold : ∀ call, op ≠ .report call) :
    Discreet id CaseState.identity (fun _ => True) (CaseProcedure.perform op) :=
  discreet_onContext (discreet_aside untold)

theorem discreet_caseLog (level : LogLevel) (message : String) :
    Discreet id CaseState.identity (fun _ => True) (CaseProcedure.log level message) :=
  discreet_onContext (discreet_contextLog level message)

theorem discreet_caseFail (reason : String) :
    Discreet id CaseState.identity (fun _ => True) (CaseProcedure.fail reason) :=
  discreet_onContext (discreet_contextFail reason)

theorem discreet_caseAttempt {p : CaseProcedure α} (hp : Discreet id CaseState.identity R p) :
    Discreet id CaseState.identity (fun r => ∀ a, r = .ok a → R a) p.attempt := by
  intro st mark own
  refine meets_caseAttempt.2 ((hp st mark own).mono fun r y _ ended => ⟨ended.1, fun attempted same a here => ?_⟩)
  obtain ⟨-, whole⟩ | ⟨fault, -, stops⟩ := settled_cases r
  · obtain rfl : r = attempted := Except.ok.inj (whole.symm.trans same)
    exact ended.2 a here
  · cases stops.symm.trans same

theorem discreet_ofExcept {e : Except Fault α} (h : ∀ a, e = .ok a → R a) :
    Discreet id CaseState.identity R (CaseProcedure.ofExcept e) :=
  fun _ _ own => (meets_ofExcept e).2 ⟨own, h⟩

theorem discreet_tellReport {call : ReportCall} (own : call.testId? = some id.testId) :
    Discreet id CaseState.identity (fun _ => True) (CaseProcedure.shared (tellReport call)) :=
  fun _ _ stays => meets_onContext.2 (meets_shared.2
    (Program.Keeps.mono (fun _ _ _ => ⟨stays, fun _ _ => trivial⟩) (keeps_tellReport_marking own)))

end

section

variable (d : CaseDescriptor) {id : CaseIdentity} (own : id.testId = d.testId)
include own

theorem discreet_reportExecution (e : KeywordExecution) :
    Discreet id CaseState.identity (fun _ => True) (CaseProcedure.shared (d.reportExecution e)) := by
  have tells : ∀ level reason, Discreet id CaseState.identity (fun _ => True)
      (CaseProcedure.shared (do let _ ← tellReport (.log level d.testId d.testName reason))) := by
    intro level reason
    rw [CaseProcedure.shared_bind]
    refine Discreet.bind (discreet_tellReport ?_) fun _ _ => discreet_pure trivial
    exact congrArg some own.symm
  unfold CaseDescriptor.reportExecution
  split
  · exact discreet_pure trivial
  · exact tells _ _
  · exact tells _ _

theorem discreet_runKeywords {registry : KeywordRegistry} (h : registry.Discreet) : ∀ keywords,
    Discreet id CaseState.identity (fun _ => True) (d.runKeywords registry keywords)
  | [] => discreet_pure trivial
  | v :: rest => by
    refine Discreet.bind (discreet_ofExcept (R := fun _ => True) fun _ _ => trivial) fun text _ => ?_
    cases text with
    | none => exact discreet_runKeywords h rest
    | some keyword =>
      refine Discreet.bind (discreet_tellReport ?_) fun _ _ => ?_
      · exact congrArg some own.symm
      refine (discreet_onContext (discreet_dispatch h _)).bind fun e _ => Discreet.bind (discreet_modify ?_) fun _ _ => ?_
      · exact fun _ => rfl
      refine (discreet_reportExecution d own e).bind fun _ _ => discreet_get.bind fun st _ => ?_
      split
      · exact discreet_caseLog _ _
      · exact discreet_runKeywords h rest

theorem discreet_attemptKeywords {registry : KeywordRegistry} (h : registry.Discreet) :
    Discreet id CaseState.identity (fun _ => True) (d.attemptKeywords registry) := by
  have executes : Discreet id CaseState.identity (fun _ => True) (d.execute registry) := by
    refine (discreet_casePerform (by simp)).bind fun data _ => Discreet.bind (discreet_modify ?_) fun _ _ => ?_
    · exact fun _ => rfl
    refine (discreet_casePerform (by simp)).bind fun keywords _ => ?_
    split
    · exact discreet_caseFail _
    · exact discreet_runKeywords d own h _
  refine (discreet_caseAttempt executes).bind fun executed _ => ?_
  cases executed with
  | ok _ => exact discreet_pure trivial
  | error fault => exact (discreet_caseLog _ _).bind fun _ _ => discreet_caseFail _

omit own in
theorem discreet_recordResult (keys : List String) (startedAt : Timestamp) (start : Float) :
    Discreet id CaseState.identity (fun r => r.testId = d.testId) (d.recordResult keys startedAt start) := by
  have made : ∀ (c : Context) executions metadata status, Discreet id CaseState.identity (fun r => r.testId = d.testId) (do
      let completedAt ← CaseProcedure.perform .now
      let seconds := (← CaseProcedure.perform .stopwatch) - start
      CaseProcedure.ofExcept (d.result c executions metadata startedAt completedAt seconds status).checkDuration) := by
    intro c executions metadata status
    refine (discreet_casePerform (by simp)).bind fun completedAt _ => (discreet_casePerform (by simp)).bind fun stop _ => ?_
    refine discreet_ofExcept fun r checked => ?_
    rw [CaseDescriptor.checkDuration_eq_self checked]
    rfl
  have builds : Discreet id CaseState.identity (fun r => r.testId = d.testId) (d.buildResult keys startedAt start) :=
    discreet_get.bind fun st _ =>
      Discreet.bind (discreet_ofExcept (R := fun _ => True) fun _ _ => trivial) fun metadata _ => made _ _ _ _
  refine (discreet_caseAttempt builds).bind fun built recorded => ?_
  cases built with
  | ok r => exact discreet_pure (recorded r rfl)
  | error fault =>
    refine (discreet_caseLog _ _).bind fun _ _ => (discreet_caseFail _).bind fun _ _ => ?_
    exact discreet_get.bind fun st _ => made _ _ _ _

end

/-! ## The whole test case -/

namespace CaseDescriptor

variable (d : CaseDescriptor)

/-- Where a test case came to a result, it is its own, and the mark is that of the result. -/
def Marked (r : Except Fault CaseResult) (mark : Option CaseMark) : Prop :=
  ∀ result, r = .ok result → result.testId = d.testId ∧ mark = some (.ofStatus result.status)

variable {d} {plan : SuitePlan} (h : plan.registry.Discreet) {st : CaseState} {mark : Option CaseMark}
include h

theorem meets_stages_marking (own : st.identity.testId = d.testId) (u : UnitId) (startedAt : Timestamp) (start : Float) :
    Meets (marking d.testId) (d.stages plan u startedAt start) st mark fun r _ next => d.Marked r next := by
  have works : Discreet st.identity CaseState.identity (fun r => r.testId = d.testId) (do
      d.attemptKeywords plan.registry
      d.recordResult plan.metadataKeys startedAt start) :=
    (discreet_attemptKeywords d own h).bind fun _ _ => discreet_recordResult d _ _ _
  have staged : d.stages plan u startedAt start = (do
      let r ← (do
        d.attemptKeywords plan.registry
        d.recordResult plan.metadataKeys startedAt start)
      CaseProcedure.shared (reportOutcome plan.listeners r u)
      return r) := (bind_assoc _ _ _).symm
  rw [staged, meets_bind]
  have worked := works st mark rfl
  rw [own] at worked
  refine worked.mono fun r st' next ended => ?_
  cases r with
  | error fault => exact fun _ never => by cases never
  | ok r =>
    have mine := ended.2 r rfl
    dsimp only
    rw [meets_bind]
    refine meets_onContext.2 (meets_shared.2
      (Program.Keeps.mono (fun told last here => ?_) (keeps_reportOutcome_marking plan.listeners mine u)))
    cases told with
    | error fault => exact fun _ never => by cases never
    | ok _ =>
      intro result same
      cases same
      exact ⟨mine, here rfl⟩

theorem meets_runWith_marking (own : st.identity.testId = d.testId) (u : UnitId) :
    Meets (marking d.testId) (d.runWith plan u) st mark fun r _ next => d.Marked r next := by
  have opens : Discreet st.identity CaseState.identity (fun _ => True) (CaseProcedure.shared d.opening) := by
    unfold opening
    simp only [CaseProcedure.shared_bind]
    refine (discreet_casePerform (by simp)).bind fun startedAt _ => (discreet_casePerform (by simp)).bind fun start _ => ?_
    refine (discreet_caseLog _ _).bind fun _ _ => Discreet.bind (discreet_tellReport ?_) fun _ _ => discreet_pure trivial
    exact congrArg some own.symm
  have opened := opens st mark rfl
  rw [own] at opened
  rw [runWith_eq_stages, meets_bind]
  refine opened.mono fun r st₁ _ ended => ?_
  cases r with
  | error fault => exact fun _ never => by cases never
  | ok times =>
    have mine : st₁.identity.testId = d.testId := by rw [ended.1, own]
    dsimp only
    rw [meets_bind, meets_andFinally]
    -- the stages tell the report of the result; the release and the last line leave it alone
    refine (meets_stages_marking h mine u _ _).mono fun r st₂ next marked => ?_
    refine (Silent.marking (silent_release u) st₂).mono fun r' st₃ _ same => ?_
    subst same
    cases r' with
    | error fault => exact fun _ never => by cases never
    | ok _ =>
      cases r with
      | error fault => exact fun _ never => by cases never
      | ok result =>
        have logs : Silent (CaseProcedure.log .info (d.eventText (if result.passed then "passed" else "failed"))) :=
          silent_casePerform rfl
        dsimp only [lastFault]
        rw [meets_bind]
        refine (Silent.marking logs st₃).mono fun told _ _ same => ?_
        subst same
        cases told with
        | error fault => exact fun _ never => by cases never
        | ok _ => exact marked

/-- A whole test case tells the report of itself only, and has the mark of its result in the end. -/
theorem keeps_run_marking (u : UnitId) :
    (ExceptT.run (d.run plan u)).Keeps (marking d.testId) mark fun r next => d.Marked r next := by
  have met : Meets (marking d.testId) (d.runWith plan u) (d.freshState u) mark fun r _ next => d.Marked r next :=
    meets_runWith_marking h rfl u
  exact (Program.keeps_bind ((d.runWith plan u).run (d.freshState u)) _ _ _).2
    (Program.Keeps.mono (fun _ _ marked => marked) met)

end CaseDescriptor

end KeywordSuite
