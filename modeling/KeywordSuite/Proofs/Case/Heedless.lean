import KeywordSuite.Proofs.Case.Isolation
import KeywordSuite.Proofs.Keyword.Heedless

/-!
# Test cases that do not heed what telling comes to

With heedless keywords a test case does the same operations and comes to the same outcome, whatever the report
and the listeners answer and whichever listeners there are.
-/

namespace KeywordSuite

section

variable {α β γ : Type}

/-! ## Shared procedures -/

/-- What is done aside of the runs on two units is done aside of an echo. -/
theorem Alone.echo {p : SharedProcedure α} (h : Alone (tandem .calling .calling) p) : Alone echo p := h

theorem Echoes.seq {p q : SharedProcedure α} {f g : α → SharedProcedure β}
    (h : Echoes (ExceptT.run p) (ExceptT.run q)) (rest : ∀ a, Echoes (ExceptT.run (f a)) (ExceptT.run (g a))) :
    Echoes (ExceptT.run (p >>= f)) (ExceptT.run (q >>= g)) := by
  refine h.bind fun r => ?_
  cases r with
  | ok a => exact rest a
  | error fault => exact echoes_done _

theorem Echoes.sharedAttempt {p q : SharedProcedure α} (h : Echoes (ExceptT.run p) (ExceptT.run q)) :
    Echoes (ExceptT.run p.attempt) (ExceptT.run q.attempt) := by
  refine h.bind fun r => ?_
  cases r with
  | ok a => exact echoes_done _
  | error fault => exact echoes_done _

theorem Echoes.afterAlone {p : SharedProcedure α} {q : SharedProcedure β} {f : α → SharedProcedure γ}
    {g : β → SharedProcedure γ} (hp : Alone echo p) (hq : Alone echo q)
    (rest : ∀ a b, Echoes (ExceptT.run (f a)) (ExceptT.run (g b))) :
    Echoes (ExceptT.run (p >>= f)) (ExceptT.run (q >>= g)) := by
  have told : Coupled echo (fun _ r r' => (∃ a, r = .ok a) ∧ ∃ b, r' = .ok b) () (ExceptT.run p) (ExceptT.run q) :=
    Coupled.alone _ _ hp hq fun _ _ ended ended' => ⟨ended, ended'⟩
  refine told.bind ?_
  rintro _ _ _ ⟨⟨a, rfl⟩, b, rfl⟩
  exact rest a b

theorem echoes_alone {p q : SharedProcedure Unit} (hp : Alone echo p) (hq : Alone echo q) :
    Echoes (ExceptT.run p) (ExceptT.run q) := by
  refine Coupled.alone _ _ hp hq ?_
  rintro _ _ ⟨a, rfl⟩ ⟨b, rfl⟩
  rfl

/-! ## Procedures of a test case -/

theorem echoes_onContext {p q : ContextProcedure α} (h : EchoesIn p q) :
    EchoesIn (CaseProcedure.onContext p) (CaseProcedure.onContext q) :=
  fun st => (h st.context).bind fun _ => echoes_done _

theorem echoes_caseShared {p q : SharedProcedure α} (h : Echoes (ExceptT.run p) (ExceptT.run q)) :
    EchoesIn (CaseProcedure.shared p) (CaseProcedure.shared q) :=
  echoes_onContext (echoes_shared h)

theorem echoes_casePerform {op : SharedOp} (matters : ¬ op.IsAside) :
    EchoesIn (CaseProcedure.perform op) (CaseProcedure.perform op) :=
  echoes_onContext (echoes_perform matters)

theorem echoes_caseLog (level : LogLevel) (message : String) :
    EchoesIn (CaseProcedure.log level message) (CaseProcedure.log level message) :=
  echoes_onContext (echoes_contextLog level message)

theorem echoes_caseFail (reason : String) : EchoesIn (CaseProcedure.fail reason) (CaseProcedure.fail reason) :=
  echoes_onContext (echoes_contextFail reason)

theorem echoes_ofExcept (r : Except Fault α) : EchoesIn (CaseProcedure.ofExcept r) (CaseProcedure.ofExcept r) := by
  cases r with
  | ok a => exact echoes_pure a
  | error fault => exact echoes_throw fault

theorem solo_tellReport (call : ReportCall) : Solo echo (fun _ => True) (CaseProcedure.shared (tellReport call)) := by
  intro st
  refine meets_onContext.2 (meets_shared.2 ((alone_tellReport call).echo.mono ?_))
  rintro _ _ ⟨a, rfl⟩
  exact ⟨rfl, a, rfl, trivial⟩

variable {p q : CaseProcedure α}

theorem EchoesIn.caseAttempt (h : EchoesIn p q) : EchoesIn p.attempt q.attempt := by
  intro st
  refine (h st).bind ?_
  rintro ⟨r, st'⟩
  cases r with
  | ok a => exact echoes_done _
  | error fault => exact echoes_done _

theorem EchoesIn.andFinally {last : CaseProcedure Unit} (h : EchoesIn p q) (hl : EchoesIn last last) :
    EchoesIn (p.andFinally last) (q.andFinally last) := by
  intro st
  refine (h st).bind ?_
  rintro ⟨r, st'⟩
  refine (hl st').bind ?_
  rintro ⟨r', st''⟩
  cases r' with
  | ok _ => exact echoes_done _
  | error fault => exact echoes_done _

end

/-! ## Dispatching heedless keywords -/

theorem echoes_judge (e : KeywordEntry) (returned : Value) :
    EchoesIn (KeywordRegistry.judge e returned) (KeywordRegistry.judge e returned) := by
  unfold KeywordRegistry.judge
  split
  · exact (echoes_contextLog _ _).bind fun _ => echoes_pure _
  · split <;> exact (echoes_contextLog _ _).bind fun _ => echoes_pure _
  · split
    · refine (echoes_contextLog _ _).bind fun _ => echoes_get.bind fun c => ?_
      split
      · exact (echoes_contextFail _).bind fun _ => echoes_pure _
      · exact echoes_pure _
    · exact (echoes_contextLog _ _).bind fun _ => echoes_pure _

theorem echoes_runEntry {e : KeywordEntry} (he : ∀ id, Heedless (e.body id)) :
    EchoesIn (KeywordRegistry.runEntry e) (KeywordRegistry.runEntry e) := by
  have concludes : ∀ recorded, EchoesIn (KeywordRegistry.conclude recorded) (KeywordRegistry.conclude recorded) :=
    fun _ _ => echoes_done _
  unfold KeywordRegistry.runEntry
  refine (echoes_contextLog _ _).bind fun _ => (echoes_perform id).bind fun start => echoes_get.bind fun c => ?_
  refine (EchoesIn.attempt (he c.identity)).bind fun outcome => (echoes_perform id).bind fun stop => ?_
  cases outcome with
  | error fault => exact (echoes_contextLog _ _).bind fun _ => (echoes_contextFail _).bind fun _ => concludes _
  | ok returned => exact (echoes_contextLog _ _).bind fun _ => (echoes_judge e returned).bind fun _ => concludes _

theorem echoes_dispatch {registry : KeywordRegistry} (hr : registry.Heedless) (name : Option String) :
    EchoesIn (registry.dispatch name) (registry.dispatch name) := by
  unfold KeywordRegistry.dispatch
  split
  · exact (echoes_contextLog _ _).bind fun _ => (echoes_contextFail _).bind fun _ => echoes_pure _
  · rename_i e found
    exact echoes_runEntry (hr name e found)

/-! ## The stages of a test case -/

section

variable (d : CaseDescriptor)

theorem echoes_runKeywords {registry : KeywordRegistry} (hr : registry.Heedless) : ∀ sequence : List Value,
    EchoesIn (d.runKeywords registry sequence) (d.runKeywords registry sequence)
  | [] => echoes_pure ()
  | value :: rest => by
    have others := echoes_runKeywords hr rest
    refine (echoes_ofExcept (CaseDescriptor.keywordText value)).bind fun text => ?_
    cases text with
    | none => exact others
    | some keyword =>
      refine EchoesIn.after (solo_tellReport _) (solo_tellReport _) fun _ _ _ _ => ?_
      refine (echoes_onContext (echoes_dispatch hr _)).bind fun e => (echoes_modify _).bind fun _ => ?_
      have reports : Alone echo (d.reportExecution e) := (alone_reportExecution d e).echo
      refine (echoes_caseShared (echoes_alone reports reports)).bind fun _ => echoes_get.bind fun st => ?_
      split
      · exact echoes_caseLog _ _
      · exact others

theorem echoes_attemptKeywords {registry : KeywordRegistry} (hr : registry.Heedless) :
    EchoesIn (d.attemptKeywords registry) (d.attemptKeywords registry) := by
  have executes : EchoesIn (d.execute registry) (d.execute registry) := by
    refine (echoes_casePerform id).bind fun data => (echoes_modify _).bind fun _ => ?_
    refine (echoes_casePerform id).bind fun sequence => ?_
    split
    · exact echoes_caseFail _
    · exact echoes_runKeywords d hr _
  refine executes.caseAttempt.bind fun r => ?_
  cases r with
  | ok _ => exact echoes_pure _
  | error fault => exact (echoes_caseLog _ _).bind fun _ => echoes_caseFail _

theorem echoes_recordResult (keys : List String) (startedAt : Timestamp) (start : Float) :
    EchoesIn (d.recordResult keys startedAt start) (d.recordResult keys startedAt start) := by
  have builds : EchoesIn (d.buildResult keys startedAt start) (d.buildResult keys startedAt start) :=
    echoes_get.bind fun _ => (echoes_ofExcept _).bind fun _ => (echoes_casePerform id).bind fun _ =>
      (echoes_casePerform id).bind fun _ => echoes_ofExcept _
  refine builds.caseAttempt.bind fun r => ?_
  cases r with
  | ok r => exact echoes_pure r
  | error fault =>
    refine (echoes_caseLog _ _).bind fun _ => (echoes_caseFail _).bind fun _ => ?_
    exact echoes_get.bind fun _ => (echoes_casePerform id).bind fun _ =>
      (echoes_casePerform id).bind fun _ => echoes_ofExcept _

theorem echoes_captureFailure (r : CaseResult) (u : UnitId) :
    Echoes (ExceptT.run (CaseDescriptor.captureFailure r u)) (ExceptT.run (CaseDescriptor.captureFailure r u)) := by
  have logs : ∀ level message, Alone echo (SharedProcedure.log level message) := fun _ _ => (alone_log _ _).echo
  refine (echoes_sharedPerform id).sharedAttempt.seq fun captured => ?_
  cases captured with
  | ok path => exact echoes_done _
  | error fault => exact Echoes.afterAlone (logs _ _) (logs _ _) fun _ _ => echoes_done _

/-- Whichever listeners are informed, a failure is captured in the same way. -/
theorem echoes_reportOutcome (listeners listeners' : List String) (r : CaseResult) (u : UnitId) :
    Echoes (ExceptT.run (CaseDescriptor.reportOutcome listeners r u))
      (ExceptT.run (CaseDescriptor.reportOutcome listeners' r u)) := by
  have tells : ∀ call, Alone echo (tellReport call) := fun call => (alone_tellReport call).echo
  have informs : Echoes (ExceptT.run (informAll (.result r) 0 listeners))
      (ExceptT.run (informAll (.result r) 0 listeners')) :=
    echoes_alone (alone_informAll _ _ _).echo (alone_informAll _ _ _).echo
  have finishes : ∀ call, Echoes (ExceptT.run (do let _ ← tellReport call; informAll (.result r) 0 listeners))
      (ExceptT.run (do let _ ← tellReport call; informAll (.result r) 0 listeners')) :=
    fun call => Echoes.afterAlone (tells call) (tells call) fun _ _ => informs
  unfold CaseDescriptor.reportOutcome
  split
  · exact finishes _
  · refine (echoes_captureFailure r u).seq fun path => ?_
    split
    · exact finishes _
    · exact finishes _
    · exact Echoes.afterAlone (tells _) (tells _) fun _ _ => finishes _

theorem echoes_release (u : UnitId) : EchoesIn (CaseDescriptor.release u) (CaseDescriptor.release u) :=
  (echoes_onContext echoes_cleanUp).bind fun _ => echoes_casePerform id

/-! ## The whole test case -/

variable {plan plan' : SuitePlan}

/-- A test case does the same and comes to the same outcome, whichever listeners there are. -/
theorem echoes_run (hr : plan.registry.Heedless) (same : plan.SameWork plan') (u : UnitId) :
    Echoes (ExceptT.run (d.run plan u)) (ExceptT.run (d.run plan' u)) := by
  have stages : ∀ startedAt start, EchoesIn (d.stages plan u startedAt start) (d.stages plan' u startedAt start) := by
    intro startedAt start
    unfold CaseDescriptor.stages
    rw [← same.registry, ← same.metadataKeys]
    refine (echoes_attemptKeywords d hr).bind fun _ => (echoes_recordResult d _ _ _).bind fun r => ?_
    exact (echoes_caseShared (echoes_reportOutcome _ _ r u)).bind fun _ => echoes_pure r
  have runs : EchoesIn (d.runWith plan u) (d.runWith plan' u) := by
    unfold CaseDescriptor.runWith
    simp only [CaseDescriptor.conclude_eq_stages]
    refine (echoes_casePerform id).bind fun startedAt => (echoes_casePerform id).bind fun start => ?_
    refine (echoes_caseLog _ _).bind fun _ => EchoesIn.after (solo_tellReport _) (solo_tellReport _) fun _ _ _ _ => ?_
    refine ((stages startedAt start).andFinally (echoes_release u)).bind fun r => ?_
    exact (echoes_caseLog _ _).bind fun _ => echoes_pure r
  exact (runs (d.freshState u)).bind fun _ => echoes_done _

end

end KeywordSuite
