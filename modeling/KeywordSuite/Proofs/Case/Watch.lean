import KeywordSuite.Proofs.Case.Isolation
import KeywordSuite.Proofs.Keyword.Watch

/-!
# Test cases complete unless they are interrupted

With vigilant keywords a test case comes to a result of its own whatever fails on the way, and is interrupted
exactly if one of its operations is.
-/

namespace KeywordSuite

section

variable {fails : Prop} {k : List Float} {α β : Type} {R : List Float → α → Prop}

/-! ## Procedures of a test case -/

theorem watched_onContext {p : ContextProcedure α} (h : Watched fails R k p) :
    Watched fails R k (CaseProcedure.onContext p) :=
  fun st g later => meets_onContext.2 (h st.context g later)

theorem watched_caseAttempt {p : CaseProcedure α} (h : Watched fails R k p) :
    Watched False (fun k₁ r => ∀ a, r = .ok a → R k₁ a) k p.attempt := by
  intro st g later
  exact meets_caseAttempt.2 ((h st g later).mono fun r y g' ended => ⟨ended.1, ended.2.settled⟩)

theorem watched_caseSafe (op : SharedOp) (safe : op.neverFails = true) :
    Watched fails (fun k₁ a => op.Answered k k₁ a) k (CaseProcedure.perform op) :=
  watched_onContext (watched_safe op safe)

theorem watched_caseLog (level : LogLevel) (message : String) :
    Watched fails AnyValue k (CaseProcedure.log level message) :=
  (watched_caseSafe _ rfl).any

theorem watched_caseFail (reason : String) : Watched fails AnyValue k (CaseProcedure.fail reason) :=
  watched_onContext (watched_contextFail reason)

theorem watched_ofExcept {r : Except Fault α} (h : ∀ k₁ b, k ⊆ k₁ → EndsIn fails (R k₁) b r b) :
    Watched fails R k (CaseProcedure.ofExcept r) :=
  fun _ g later => (meets_ofExcept r).2 ⟨List.Subset.refl _, h g.readings g.interrupted later⟩

/-- What is done aside comes to a value and is not interrupted. -/
theorem Alone.keeps {u v : UnitId} {p : SharedProcedure α} (h : Alone (tandem u v) p) (g : Watch) :
    (ExceptT.run p).Keeps watching g fun r h => (∃ a, r = .ok a) ∧ h = g := by
  have aside : ∀ {p : Program SharedOp.Reply (Except Fault α)}, p.Keeps (tandem u v).alone () (fun r _ => ∃ a, r = .ok a) →
      p.Keeps watching g fun r h => (∃ a, r = .ok a) ∧ h = g := by
    intro p
    induction p with
    | done r => exact fun ended => ⟨ended, rfl⟩
    | call op resume ih =>
      intro kept
      obtain ⟨_, aside, kept⟩ := kept
      refine ⟨g, rfl, fun reply answered => ?_⟩
      obtain ⟨works, ordinary, -⟩ := answered
      have silent : watching.next g op reply = g ∧ op.AsideReply reply := by
        have calm : op.isInterruptible = false → isBroken reply = false := fun safe => ordinary_iff.1 (ordinary safe)
        cases op with
        | log level message =>
          obtain ⟨a, rfl⟩ := works rfl
          exact ⟨congrArg (Watch.mk g.readings) (Bool.or_false _), rfl⟩
        | report | inform =>
          exact ⟨congrArg (Watch.mk g.readings) ((congrArg (g.interrupted || ·) (calm rfl)).trans (Bool.or_false _)), ordinary rfl⟩
        | _ => exact aside.elim
      rw [silent.1]
      exact ih reply (kept reply silent.2)
  exact aside h

theorem watched_alone {u v : UnitId} {p : SharedProcedure α} (h : Alone (tandem u v) p) :
    Watched fails AnyValue k (CaseProcedure.shared p) := by
  intro st g later
  refine meets_onContext.2 (meets_shared.2 ((h.keeps g).mono ?_))
  intro r g' ended
  obtain ⟨⟨a, rfl⟩, rfl⟩ := ended
  exact ⟨List.Subset.refl _, .ok trivial⟩

theorem watched_sharedAttempt (op : SharedOp) :
    Watched fails AnyValue k (CaseProcedure.shared (SharedProcedure.perform op).attempt) := by
  intro st g later
  refine meets_onContext.2 (meets_shared.2 (keeps_attempt.2 (keeps_perform.2 ⟨g, rfl, fun reply answered => ?_⟩)))
  obtain ⟨grown, ended⟩ := endsIn_reply answered
  exact ⟨grown, ended.settled.mono False.elim fun _ _ => trivial⟩

theorem watched_andFinally {R : α → Prop} {p : CaseProcedure α} {last : CaseProcedure Unit}
    (h : Watched fails (fun _ => R) k p) (hl : ∀ k₁, Watched False AnyValue k₁ last) :
    Watched fails (fun _ => R) k (p.andFinally last) := by
  intro st g later
  refine meets_andFinally.2 ((h st g later).mono fun r st₁ g₁ ended => ?_)
  refine (hl g₁.readings st₁ g₁ (List.Subset.refl _)).mono fun r' st₂ g₂ finished => ?_
  obtain ⟨grown, ended⟩ := ended
  obtain ⟨grown', finished⟩ := finished
  refine ⟨List.Subset.trans grown grown', ?_⟩
  generalize g₁.interrupted = b₁, g₂.interrupted = b₂ at ended finished ⊢
  cases finished with
  | ok _ => exact ended
  | failed never _ => exact never.elim
  | interrupted broken => exact .interrupted broken

end

/-! ## Dispatching vigilant keywords -/

section

variable {k : List Float}

theorem watched_conclude {e : Except Fault KeywordExecution} (ordinary : Ordinary e) :
    Watched True AnyValue k (KeywordRegistry.conclude e) := by
  cases e with
  | ok e => exact watched_value e
  | error fault => exact watched_throw trivial (ordinary fault rfl)

theorem watched_judge (e : KeywordEntry) (returned : Value) :
    Watched True AnyValue k (KeywordRegistry.judge e returned) := by
  unfold KeywordRegistry.judge
  split
  · exact (watched_contextLog _ _).bind fun _ _ _ _ => watched_value _
  · split <;> exact (watched_contextLog _ _).bind fun _ _ _ _ => watched_value _
  · split
    · refine (watched_contextLog _ _).bind fun _ _ _ _ => watched_get.bind fun _ c _ _ => ?_
      split
      · exact (watched_contextFail _).bind fun _ _ _ _ => watched_value _
      · exact watched_value _
    · exact (watched_contextLog _ _).bind fun _ _ _ _ => watched_value _

theorem ordinary_record (keyword : String) (status : KeywordStatus) (reason : Option String) (durationMs : Float)
    (mandatory : Bool) : Ordinary (KeywordExecution.record keyword status reason durationMs mandatory) := by
  unfold KeywordExecution.record
  split
  · exact ordinary_ok _
  · exact faulty_error rfl

theorem watched_dispatch {registry : KeywordRegistry} (hr : registry.Vigilant) (name : Option String) :
    Watched True AnyValue k (registry.dispatch name) := by
  unfold KeywordRegistry.dispatch
  split
  · exact (watched_contextLog _ _).bind fun _ _ _ _ => (watched_contextFail _).bind fun _ _ _ _ => watched_value _
  · rename_i e found
    unfold KeywordRegistry.runEntry
    refine (watched_contextLog _ _).bind fun _ _ _ _ => (watched_op .stopwatch).bind fun k₁ start _ _ => ?_
    refine watched_get.bind fun k₂ c _ _ => (hr name e found c.identity k₂).attempt.never.bind fun k₃ outcome _ _ => ?_
    refine (watched_op .stopwatch).bind fun k₄ stop _ _ => ?_
    cases outcome with
    | error fault =>
      refine (watched_contextLog _ _).bind fun _ _ _ _ => (watched_contextFail _).bind fun _ _ _ _ => ?_
      exact watched_conclude (ordinary_record _ _ _ _ _)
    | ok returned =>
      refine (watched_contextLog _ _).bind fun _ _ _ _ => (watched_judge e returned).bind fun _ _ _ _ => ?_
      exact watched_conclude (ordinary_record _ _ _ _ _)

end

/-! ## The stages of a test case -/

/-- A result of a test case, with a duration that can be told. -/
structure CaseDescriptor.Completes (d : CaseDescriptor) (r : CaseResult) : Prop extends d.Owns r where
  lasts : IsSpan r.durationSeconds

section

variable {k : List Float} (d : CaseDescriptor)

theorem endsIn_of_ordinary {α : Type} {r : Except Fault α} (ordinary : Ordinary r) (b : Bool) :
    EndsIn True (fun _ => True) b r b := by
  cases r with
  | ok a => exact .ok trivial
  | error fault => exact .failed trivial (ordinary fault rfl)

theorem watched_runKeywords {registry : KeywordRegistry} (hr : registry.Vigilant) : ∀ (sequence : List Value)
    {k : List Float}, Watched True AnyValue k (d.runKeywords registry sequence)
  | [], _ => watched_value ()
  | value :: rest, k => by
    have others : ∀ k₁, Watched True AnyValue k₁ (d.runKeywords registry rest) := fun _ => watched_runKeywords hr rest
    have read : Watched True AnyValue k (CaseProcedure.ofExcept (CaseDescriptor.keywordText value)) :=
      watched_ofExcept fun _ b _ => endsIn_of_ordinary (CaseDescriptor.ordinary_keywordText value) b
    refine read.bind fun k₁ text _ _ => ?_
    cases text with
    | none => exact others k₁
    | some keyword =>
      refine (watched_alone (alone_tellReport (u := .calling) (v := .calling) _)).bind fun _ _ _ _ => ?_
      refine (watched_onContext (watched_dispatch hr _)).bind fun _ e _ _ => (watched_modify _).bind fun _ _ _ _ => ?_
      refine (watched_alone (alone_reportExecution (u := .calling) (v := .calling) d e)).bind fun _ _ _ _ => ?_
      refine watched_get.bind fun k₂ st _ _ => ?_
      split
      · exact watched_caseLog _ _
      · exact others k₂

theorem watched_execute {registry : KeywordRegistry} (hr : registry.Vigilant) :
    Watched True AnyValue k (d.execute registry) := by
  refine (watched_onContext (watched_op (.loadInput d.testId))).bind fun _ data _ _ => ?_
  refine (watched_modify _).bind fun _ _ _ _ => (watched_onContext (watched_op (.loadKeywords d.testId))).bind fun _ sequence _ _ => ?_
  split
  · exact watched_caseFail _
  · exact watched_runKeywords d hr _

theorem watched_attemptKeywords {registry : KeywordRegistry} (hr : registry.Vigilant) :
    Watched False AnyValue k (d.attemptKeywords registry) := by
  refine (watched_caseAttempt (watched_execute d hr)).bind fun _ r _ _ => ?_
  cases r with
  | ok _ => exact watched_value _
  | error fault => exact (watched_caseLog _ _).bind fun _ _ _ _ => watched_caseFail _

/-- Where the stopwatch is read a second time, the result is checked and passes. -/
theorem watched_result {start : Float} (read : start ∈ k) (c : Context) (executions : List KeywordExecution)
    (metadata : Entries String) (startedAt : Timestamp) (status : CaseStatus) :
    Watched False (fun _ => d.Completes) k (do
      let completedAt ← CaseProcedure.perform .now
      let seconds := (← CaseProcedure.perform .stopwatch) - start
      CaseProcedure.ofExcept (d.result c executions metadata startedAt completedAt seconds status).checkDuration) := by
  refine (watched_caseSafe .now rfl).bind fun k₁ completedAt later _ => ?_
  refine (watched_caseSafe .stopwatch rfl).bind fun k₂ stop _ shown => watched_ofExcept fun _ b _ => ?_
  have span : IsSpan (stop - start) := (shown stop rfl).2 start (later read)
  have passes : (d.result c executions metadata startedAt completedAt (stop - start) status).checkDuration =
      .ok (d.result c executions metadata startedAt completedAt (stop - start) status) := if_pos span.1
  rw [passes]
  exact .ok ⟨⟨rfl, rfl, rfl, rfl⟩, span⟩

theorem watched_recordResult (keys : List String) (startedAt : Timestamp) {start : Float} (read : start ∈ k) :
    Watched False (fun _ => d.Completes) k (d.recordResult keys startedAt start) := by
  have builds : Watched True (fun _ => d.Completes) k (d.buildResult keys startedAt start) := by
    refine watched_get.bind fun k₁ st later _ => ?_
    have collects : Watched True AnyValue k₁ (CaseProcedure.ofExcept (CaseDescriptor.collectMetadata st.context keys [])) :=
      watched_ofExcept fun _ b _ => endsIn_of_ordinary (ordinary_collectMetadata st.context keys []) b
    refine collects.bind fun k₂ metadata later' _ => ?_
    exact (watched_result d (later' (later read)) _ _ _ _ _).never
  refine (watched_caseAttempt builds).bind fun k₁ r later completes => ?_
  cases r with
  | ok r => exact watched_pure fun _ _ => completes r rfl
  | error fault =>
    refine (watched_caseLog _ _).bind fun k₂ _ later₂ _ => (watched_caseFail _).bind fun k₃ _ later₃ _ => ?_
    refine watched_get.bind fun k₄ st later₄ _ => ?_
    exact watched_result d (later₄ (later₃ (later₂ (later read)))) _ _ _ _ _

theorem watched_reportOutcome (listeners : List String) (r : CaseResult) (u : UnitId) :
    Watched False AnyValue k (CaseProcedure.shared (CaseDescriptor.reportOutcome listeners r u)) := by
  have informs : ∀ call k₁, Watched False AnyValue k₁ (CaseProcedure.shared (do
      let _ ← tellReport call
      informAll (.result r) 0 listeners)) := fun call _ =>
    watched_alone (u := .calling) (v := .calling) (alone_bind (alone_tellReport call) fun _ => alone_informAll _ _ _)
  unfold CaseDescriptor.reportOutcome
  split
  · exact informs _ _
  · have captures : Watched False AnyValue k (CaseProcedure.shared (CaseDescriptor.captureFailure r u)) := by
      unfold CaseDescriptor.captureFailure
      rw [CaseProcedure.shared_bind]
      refine (watched_sharedAttempt _).bind fun k₁ captured _ _ => ?_
      cases captured with
      | ok path => exact watched_alone (u := .calling) (v := .calling) (alone_pure path)
      | error fault =>
        exact watched_alone (u := .calling) (v := .calling) (alone_bind (alone_log _ _) fun _ => alone_pure none)
    rw [CaseProcedure.shared_bind]
    refine captures.bind fun k₁ path _ _ => ?_
    split
    · exact informs _ _
    · exact informs _ _
    · rw [CaseProcedure.shared_bind]
      exact (watched_alone (u := .calling) (v := .calling) (alone_tellReport _)).bind fun _ _ _ _ => informs _ _

theorem watched_release (u : UnitId) : Watched False AnyValue k (CaseDescriptor.release u) :=
  (watched_onContext watched_cleanUp).bind fun _ _ _ _ => (watched_caseSafe _ rfl).any

variable {plan : SuitePlan} (hk : plan.registry.Vigilant)
include hk

theorem watched_stages (u : UnitId) (startedAt : Timestamp) {start : Float} (read : start ∈ k) :
    Watched False (fun _ => d.Completes) k (d.stages plan u startedAt start) := by
  unfold CaseDescriptor.stages
  refine (watched_attemptKeywords d hk).bind fun k₁ _ later _ => ?_
  refine (watched_recordResult d _ _ (later read)).bind fun k₂ r _ completes => ?_
  exact (watched_reportOutcome _ r u).bind fun _ _ _ _ => watched_pure fun _ _ => completes

theorem watched_runWith (u : UnitId) : Watched False (fun _ => d.Completes) k (d.runWith plan u) := by
  unfold CaseDescriptor.runWith
  simp only [CaseDescriptor.conclude_eq_stages]
  refine (watched_caseSafe _ rfl).bind fun k₁ startedAt _ _ => ?_
  refine (watched_caseSafe .stopwatch rfl).bind fun k₂ start _ shown => ?_
  refine (watched_caseLog _ _).bind fun k₃ _ later _ => ?_
  refine (watched_alone (u := .calling) (v := .calling) (alone_tellReport _)).bind fun k₄ _ later' _ => ?_
  have read : start ∈ k₄ := later' (later (shown start rfl).1)
  refine (watched_andFinally (watched_stages d hk u startedAt read) fun _ => watched_release u).bind fun k₅ r _ completes => ?_
  exact (watched_caseLog _ _).bind fun _ _ _ _ => watched_pure fun _ _ => completes

/-- A test case comes to a result of its own, or is interrupted, and that exactly if one of its operations is. -/
theorem keeps_run_watching (u : UnitId) (g : Watch) :
    (ExceptT.run (d.run plan u)).Keeps watching g fun r h => EndsIn False d.Completes g.interrupted r h.interrupted := by
  refine (Program.keeps_bind ((d.runWith plan u).run (d.freshState u)) _ _ g).2 ?_
  refine Program.Keeps.mono ?_ (watched_runWith d hk u (d.freshState u) g (List.nil_subset _))
  exact fun r h ended => ended.2

end

end KeywordSuite
