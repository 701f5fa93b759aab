import KeywordSuite.Proofs.Case.Completion
import KeywordSuite.Proofs.Keyword.Isolation

/-!
# Test cases that keep to themselves

With isolated keywords a test case does the same on any unit and comes to the same result there, but
for times, durations and the paths that carry a time stamp.
-/

namespace KeywordSuite

section

variable {u v : UnitId} {k : Ties}

/-! ## Dispatching isolated keywords -/

/-- Statuses that are equal, with reasons that are alike. -/
def JudgedAlike (_ : Ties) (x y : KeywordStatus × Option String) : Prop :=
  x.1 = y.1 ∧ Option.Rel TextAlike x.2 y.2

theorem solo_contextLog {α : Type} (level : LogLevel) (message : String) (a : α) :
    Solo (tandem u v) (· = a) (do ContextProcedure.log level message; return a : ContextProcedure α) := by
  intro c
  rw [meets_bind, ContextProcedure.log]
  refine meets_perform.2 ⟨(), trivial, fun _ replied => ?_⟩
  rw [show _ = _ from replied]
  exact ⟨rfl, a, rfl, rfl⟩

theorem twin_judge (e : KeywordEntry) {a b : Value} (same : Verdict.ofReturned a = Verdict.ofReturned b) :
    ContextTwin u v False JudgedAlike k (KeywordRegistry.judge e a) (KeywordRegistry.judge e b) := by
  have judged : ∀ {k₁ : Ties} {status : KeywordStatus} {reason reason' : Option String},
      Option.Rel TextAlike reason reason' → ContextTwin u v False JudgedAlike k₁
        (pure (status, reason)) (pure (status, reason')) :=
    fun alike => twin_pure fun _ _ => ⟨rfl, alike⟩
  unfold KeywordRegistry.judge
  rw [same]
  split
  · exact twin_contextLog.bind fun _ _ _ _ _ => judged .none
  · refine twin_solo (show Solo _ (· = (.passed, none)) _ from ?_) (show Solo _ (· = (.passed, none)) _ from ?_)
      fun _ _ _ _ ended ended' => ?_
    · split <;> exact solo_contextLog _ _ _
    · split <;> exact solo_contextLog _ _ _
    · rw [ended, ended']
      exact ⟨rfl, .none⟩
  · split
    · refine twin_contextLog.bind fun k₁ _ _ _ _ => twin_get.bind fun k₂ c c' _ alike => ?_
      have reasons := alike.failureReason
      generalize c.failureReason = x, c'.failureReason = y at reasons ⊢
      cases reasons with
      | none => exact (twin_contextFail (.same _)).bind fun _ _ _ _ _ => judged (.some (.same _))
      | some alike => exact judged (.some alike)
    · exact twin_contextLog.bind fun _ _ _ _ _ => judged (.some (.same _))

theorem twin_record (e : KeywordEntry) {status : KeywordStatus} {reason reason' : Option String}
    (alike : Option.Rel TextAlike reason reason') {elapsed elapsed' : Float} (h : 0.0 ≤ elapsed) (h' : 0.0 ≤ elapsed') :
    ContextTwin u v False (fun _ => KeywordExecution.Alike) k
      (KeywordRegistry.conclude (KeywordExecution.record e.name status reason elapsed e.mandatory))
      (KeywordRegistry.conclude (KeywordExecution.record e.name status reason' elapsed' e.mandatory)) := by
  rw [record_ok h, record_ok h']
  exact twin_pure fun _ _ => ⟨rfl, rfl, alike, rfl⟩

theorem twin_runEntry {e : KeywordEntry} (he : e.Isolated) :
    ContextTwin u v False (fun _ => KeywordExecution.Alike) k (KeywordRegistry.runEntry e)
      (KeywordRegistry.runEntry e) := by
  unfold KeywordRegistry.runEntry
  refine twin_contextLog.bind fun k₁ _ _ _ _ => ?_
  refine (twin_perform .stopwatch).bind fun k₂ start start' _ read => twin_get.bind fun k₃ c c' later alike => ?_
  have played : ContextTwin u v True (fun _ a b => Verdict.ofReturned a = Verdict.ofReturned b) k₃
      (e.body c.identity).runIn (e.body c'.identity).runIn := by
    have isolated := he c'.identity u k₃
    rw [← alike.identity, alike.unit] at isolated
    exact isolated
  refine (twin_attempt played).bind fun k₄ outcome outcome' later' matched => ?_
  have read := (le_trans later later').2 read
  refine (twin_perform (.elapsed read)).bind fun k₅ stop stop' _ elapsed => ?_
  have nonneg := milliseconds_nonneg elapsed.1
  have nonneg' := milliseconds_nonneg elapsed.2
  cases matched with
  | error _ faults =>
    refine twin_contextLog.bind fun k₆ _ _ _ _ => ?_
    have reasons := faults.message.append_left ("Error executing keyword: " ++ e.name ++ " - ")
    exact (twin_contextFail reasons).bind fun _ _ _ _ _ => twin_record e (.some reasons) nonneg nonneg'
  | ok same =>
    refine twin_contextLog.bind fun k₆ _ _ _ _ => (twin_judge e same).bind fun k₇ judged judged' _ alike => ?_
    obtain ⟨status, reason⟩ := judged
    obtain ⟨_, reason'⟩ := judged'
    obtain ⟨rfl, reasons⟩ := alike
    exact twin_record e reasons nonneg nonneg'

theorem twin_dispatch {registry : KeywordRegistry} (hr : registry.Isolated) (name : Option String) :
    ContextTwin u v False (fun _ => KeywordExecution.Alike) k (registry.dispatch name) (registry.dispatch name) := by
  unfold KeywordRegistry.dispatch
  split
  · unfold KeywordRegistry.reportUnknown
    refine twin_contextLog.bind fun k₁ _ _ _ _ => (twin_contextFail (.same _)).bind fun _ _ _ _ _ => ?_
    exact twin_pure fun _ _ => ⟨rfl, rfl, .some (.same _), rfl⟩
  · rename_i e found
    exact twin_runEntry (hr name e found)

end

/-! ## Procedures of a test case -/

section

variable {u v : UnitId} {k : Ties} {fails : Prop} {α β : Type} {R : Ties → α → β → Prop}

abbrev CaseTwin (u v : UnitId) (fails : Prop) (R : Ties → α → β → Prop) (k : Ties) (p : CaseProcedure α)
    (q : CaseProcedure β) : Prop :=
  Twin (tandem u v) (CaseState.Alike u v) fails R k p q

theorem case_onContext {p : ContextProcedure α} {q : ContextProcedure β} (h : ContextTwin u v fails R k p q) :
    CaseTwin u v fails R k (.onContext p) (.onContext q) := by
  intro k₁ st st' later alike
  refine (h k₁ st.context st'.context later alike.context).bind ?_
  rintro k₂ ⟨r, c⟩ ⟨r', c'⟩ ⟨grown, matched, contexts⟩
  exact .done ⟨grown, matched, contexts, alike.executions⟩

theorem case_shared {p : SharedProcedure α} {q : SharedProcedure β} (h : Tied (tandem u v) fails R k p q) :
    CaseTwin u v fails R k (.shared p) (.shared q) :=
  case_onContext (twin_shared h)

theorem case_alone {p : SharedProcedure α} {q : SharedProcedure β} (hp : Alone (tandem u v) p)
    (hq : Alone (tandem u v) q) : CaseTwin u v fails AnyValues k (.shared p) (.shared q) :=
  case_shared (tied_alone hp hq fun _ _ _ _ => trivial)

theorem case_perform {op op' : SharedOp} {R : Ties → op.Reply → op'.Reply → Prop}
    (h : Tandem u v k op op' fails R) : CaseTwin u v fails R k (.perform op) (.perform op') :=
  case_shared (tied_perform h)

theorem case_log {level level' : LogLevel} {message message' : String} :
    CaseTwin u v fails AnyValues k (.log level message) (.log level' message') :=
  case_alone (alone_log _ _) (alone_log _ _)

theorem case_fail {reason reason' : String} (alike : TextAlike reason reason') :
    CaseTwin u v fails AnyValues k (.fail reason) (.fail reason') :=
  case_onContext (twin_contextFail alike)

theorem case_ofExcept {r : Except Fault α} {r' : Except Fault β} (h : ∀ k₁, k ≤ k₁ → Matched fails (R k₁) r r') :
    CaseTwin u v fails R k (.ofExcept r) (.ofExcept r') := by
  intro k₁ st st' later alike
  have matched := h k₁ later
  cases matched with
  | ok related => exact .done ⟨le_refl k₁, .ok related, alike⟩
  | error may faults => exact .done ⟨le_refl k₁, .error may faults, alike⟩

theorem case_attempt {p : CaseProcedure α} {q : CaseProcedure β} (h : CaseTwin u v fails R k p q) :
    CaseTwin u v False (fun k₁ => Matched fails (R k₁)) k p.attempt q.attempt := by
  intro k₁ st st' later alike
  refine (h k₁ st st' later alike).bind ?_
  rintro k₂ ⟨r, st₂⟩ ⟨r', st₂'⟩ ⟨grown, matched, alike⟩
  dsimp only at matched
  cases matched with
  | ok related => exact .done ⟨grown, .ok (.ok related), alike⟩
  | error may faults =>
    dsimp only
    rw [faults.ordinary, faults.ordinary']
    exact .done ⟨grown, .ok (.error may faults), alike⟩

theorem case_andFinally {R : α → β → Prop} {p : CaseProcedure α} {q : CaseProcedure β}
    {last last' : CaseProcedure Unit} (h : CaseTwin u v fails (fun _ => R) k p q)
    (hl : ∀ k₁, CaseTwin u v False AnyValues k₁ last last') :
    CaseTwin u v fails (fun _ => R) k (p.andFinally last) (q.andFinally last') := by
  intro k₁ st st' later alike
  refine (h k₁ st st' later alike).bind ?_
  rintro k₂ ⟨r, st₂⟩ ⟨r', st₂'⟩ ⟨grown, matched, alike⟩
  refine (hl k₂ k₂ st₂ st₂' (le_refl k₂) alike).bind ?_
  rintro k₃ ⟨l, st₃⟩ ⟨l', st₃'⟩ ⟨grown', finished, alike⟩
  dsimp only at finished
  cases finished with
  | ok _ => exact .done ⟨le_trans grown grown', matched, alike⟩
  | error never _ => exact never.elim

end

/-! ## The stages of a test case -/

section

variable {u v : UnitId} {k : Ties} (d : CaseDescriptor)

theorem alone_reportExecution (e : KeywordExecution) : Alone (tandem u v) (d.reportExecution e) := by
  unfold CaseDescriptor.reportExecution
  split
  · exact alone_pure ()
  · exact alone_bind (alone_tellReport _) fun _ => alone_pure ()
  · exact alone_bind (alone_tellReport _) fun _ => alone_pure ()

theorem twin_runKeywords {registry : KeywordRegistry} (hr : registry.Isolated) : ∀ (sequence : List Value) {k : Ties},
    CaseTwin u v True AnyValues k (d.runKeywords registry sequence) (d.runKeywords registry sequence)
  | [], _ => twin_pure fun _ _ => trivial
  | value :: rest, k => by
    have others : ∀ k₁, CaseTwin u v True AnyValues k₁ (d.runKeywords registry rest) (d.runKeywords registry rest) :=
      fun _ => twin_runKeywords hr rest
    have read : CaseTwin u v True EqualValues k (.ofExcept (CaseDescriptor.keywordText value))
        (.ofExcept (CaseDescriptor.keywordText value)) :=
      case_ofExcept fun _ _ => matched_refl (CaseDescriptor.ordinary_keywordText value)
    refine read.bind fun k₁ text _ _ same => ?_
    obtain rfl := same
    cases text with
    | none => exact others k₁
    | some keyword =>
      refine (case_alone (alone_tellReport _) (alone_tellReport _)).bind fun k₂ _ _ _ _ => ?_
      refine (case_onContext (twin_dispatch hr _).never).bind
        fun k₃ e e' _ executed => ?_
      refine (twin_modify (R := AnyValues) fun _ _ _ _ states =>
        ⟨⟨states.context, List.rel_append states.executions (.cons executed .nil)⟩, trivial⟩).bind fun k₄ _ _ _ _ => ?_
      refine (case_alone (alone_reportExecution d e) (alone_reportExecution d e')).bind fun k₅ _ _ _ _ => ?_
      refine twin_get.bind fun k₆ st st' _ states => ?_
      have succeeded : e.succeeded = e'.succeeded := congrArg (· == .passed) executed.status
      rw [succeeded, states.context.passed]
      split
      · exact case_log
      · exact others k₆

theorem twin_execute {registry : KeywordRegistry} (hr : registry.Isolated) :
    CaseTwin u v True AnyValues k (d.execute registry) (d.execute registry) := by
  refine (case_perform (.loadInput d.testId)).bind fun k₁ data _ _ same => ?_
  obtain rfl := same
  have filled : ∀ k₂ (st st' : CaseState), st.Alike u v k₂ st' →
      CaseState.Alike u v k₂ { st with context := st.context.setInput data }
        { st' with context := st'.context.setInput data } :=
    fun _ _ _ states => ⟨{ states.context with input := congrArg (Entries.setAll · data) states.context.input },
      states.executions⟩
  refine (twin_modify (R := AnyValues) fun k₂ st st' _ states => ⟨filled k₂ st st' states, trivial⟩).bind
    fun k₂ _ _ _ _ => ?_
  refine (case_perform (.loadKeywords d.testId)).bind fun k₃ sequence _ _ same => ?_
  obtain rfl := same
  split
  · exact case_fail (.same _)
  · exact twin_runKeywords d hr _

theorem twin_attemptKeywords {registry : KeywordRegistry} (hr : registry.Isolated) :
    CaseTwin u v False AnyValues k (d.attemptKeywords registry) (d.attemptKeywords registry) := by
  refine (case_attempt (twin_execute d hr)).bind fun k₁ r r' _ matched => ?_
  cases matched with
  | ok _ => exact twin_pure fun _ _ => trivial
  | error _ faults => exact case_log.bind fun _ _ _ _ _ => case_fail (faults.message.append_left _)

/-! ## Recording and reporting -/

theorem textOf_alike {entries entries' : Entries Value} (h : Entries.Rel Value.Alike entries entries') (key : String) :
    Matched True (Option.Rel TextAlike) (Context.textOf entries key) (Context.textOf entries' key) := by
  have found := h.get? key
  unfold Context.textOf
  generalize entries.get? key = x, entries'.get? key = y at found ⊢
  cases found with
  | none => exact .ok .none
  | some alike =>
    cases alike with
    | text alike => exact .ok (.some alike)
    | same value =>
      split
      · exact .ok .none
      · exact .ok .none
      · rename_i value _ _
        have ordinary := ordinary_bind (ordinary_mapError value.toText) fun text => ordinary_ok (some text)
        refine (matched_refl ordinary).mono ?_
        rintro (_ | text) _ rfl
        · exact .none
        · exact .some (.same text)

theorem collectMetadata_alike {c c' : Context} (h : Entries.Rel Value.Alike c.scratch c'.scratch) :
    ∀ keys {found found' : Entries String}, Entries.Rel TextAlike found found' →
      Matched True (Entries.Rel TextAlike) (CaseDescriptor.collectMetadata c keys found)
        (CaseDescriptor.collectMetadata c' keys found')
  | [], _, _, alike => .ok alike
  | key :: keys, found, found', alike => by
    have read := textOf_alike h key
    unfold CaseDescriptor.collectMetadata
    generalize Context.textOf c.scratch key = x, Context.textOf c'.scratch key = y at read ⊢
    cases read with
    | error may faults => exact .error may faults
    | ok texts =>
      cases texts with
      | none => exact collectMetadata_alike h keys alike
      | @some text text' texts =>
        by_cases empty : text = ""
        · have empty' := texts.eq_empty_iff.1 empty
          subst empty empty'
          exact collectMetadata_alike h keys alike
        · have stored := collectMetadata_alike h keys (alike.set key texts)
          simp only [bind, Except.bind]
          split
          · rename_i h; cases h
          · rename_i h; cases h; exact absurd (texts.eq_empty_iff.2 rfl) empty
          · rename_i h
            cases h
            exact stored

theorem checkDuration_alike {r r' : CaseResult} (h : 0.0 ≤ r.durationSeconds) (h' : 0.0 ≤ r'.durationSeconds)
    (alike : r.Alike r') : Matched False CaseResult.Alike r.checkDuration r'.checkDuration := by
  unfold CaseResult.checkDuration
  rw [if_pos h, if_pos h']
  exact .ok alike

section

variable {c c' : Context} (contexts : c.Alike u v k c') {executions executions' : List KeywordExecution}
  (executed : List.Forall₂ KeywordExecution.Alike executions executions') {metadata metadata' : Entries String}
  (entries : Entries.Rel TextAlike metadata metadata') (status : CaseStatus)
include contexts executed entries

theorem result_alike {startedAt startedAt' completedAt completedAt' : Timestamp} {seconds seconds' : Float} :
    (d.result c executions metadata startedAt completedAt seconds status).Alike
      (d.result c' executions' metadata' startedAt' completedAt' seconds' status) :=
  ⟨rfl, rfl, rfl, rfl, contexts.failureReason, contexts.failures, rfl, entries, executed, rfl⟩

theorem twin_result {startedAt startedAt' : Timestamp} {start start' : Float} (read : (start, start') ∈ k.readings) :
    CaseTwin u v False (fun _ => CaseResult.Alike) k
      (do
        let completedAt ← CaseProcedure.perform .now
        let seconds := (← CaseProcedure.perform .stopwatch) - start
        CaseProcedure.ofExcept
          (d.result c executions metadata startedAt completedAt seconds status).checkDuration)
      (do
        let completedAt ← CaseProcedure.perform .now
        let seconds := (← CaseProcedure.perform .stopwatch) - start'
        CaseProcedure.ofExcept
          (d.result c' executions' metadata' startedAt' completedAt seconds status).checkDuration) := by
  refine (case_perform .now).bind fun k₁ _ _ later _ => ?_
  refine (case_perform (.elapsed (later.2 read))).bind fun k₂ stop stop' _ elapsed => case_ofExcept fun _ _ => ?_
  exact checkDuration_alike elapsed.1 elapsed.2 (result_alike d contexts executed entries status)

end

theorem twin_buildResult (keys : List String) {startedAt startedAt' : Timestamp} {start start' : Float}
    (read : (start, start') ∈ k.readings) :
    CaseTwin u v True (fun _ => CaseResult.Alike) k (d.buildResult keys startedAt start)
      (d.buildResult keys startedAt' start') := by
  refine twin_get.bind fun k₁ st st' later states => ?_
  refine (case_ofExcept fun _ _ => collectMetadata_alike states.context.scratch keys .nil).bind
    fun k₂ metadata metadata' later' entries => ?_
  rw [states.context.passed]
  exact (twin_result d (states.context.later later') states.executions entries _ ((le_trans later later').2 read)).never

theorem twin_recordResult (keys : List String) {startedAt startedAt' : Timestamp} {start start' : Float}
    (read : (start, start') ∈ k.readings) :
    CaseTwin u v False (fun _ => CaseResult.Alike) k (d.recordResult keys startedAt start)
      (d.recordResult keys startedAt' start') := by
  refine (case_attempt (twin_buildResult d keys read)).bind fun k₁ r r' later matched => ?_
  cases matched with
  | ok alike => exact twin_pure fun _ _ => alike
  | error _ faults =>
    refine case_log.bind fun k₂ _ _ later₂ _ => ?_
    refine (case_fail (faults.message.append_left _)).bind fun k₃ _ _ later₃ _ => ?_
    refine twin_get.bind fun k₄ st st' later₄ states => ?_
    have read := (le_trans later (le_trans later₂ (le_trans later₃ later₄))).2 read
    exact twin_result d states.context states.executions .nil .failed read

theorem tied_reportOutcome (listeners listeners' : List String) {r r' : CaseResult} (alike : r.Alike r') :
    Tied (tandem u v) False AnyValues k (CaseDescriptor.reportOutcome listeners r u)
      (CaseDescriptor.reportOutcome listeners' r' v) := by
  have passed : r.passed = r'.passed := alike.passed
  have finishes : ∀ (r : CaseResult) (names : List String), Alone (tandem u v) (do
      let _ ← tellReport (.finishCase .failed r.testId r.testName ("Test failed: " ++ r.failureReason.getD "None"))
      informAll (.result r) 0 names : SharedProcedure Unit) :=
    fun r names => alone_bind (alone_tellReport _) fun _ => alone_informAll _ _ _
  unfold CaseDescriptor.reportOutcome
  rw [passed]
  split
  · exact tied_alone (alone_bind (alone_tellReport _) fun _ => alone_informAll _ _ _)
      (alone_bind (alone_tellReport _) fun _ => alone_informAll _ _ _) fun _ _ _ _ => trivial
  -- the picture is taken together; what is told of it goes to a report and listeners of its own
  · have captures : Tied (tandem u v) False AnyValues k (CaseDescriptor.captureFailure r u)
        (CaseDescriptor.captureFailure r' v) := by
      unfold CaseDescriptor.captureFailure
      rw [alike.testId, alike.testName]
      refine (tied_perform (.captureOnFailure _ _ alike.failureReason)).attempt.bind fun k₁ _ _ _ matched => ?_
      cases matched with
      | ok _ => exact tied_pure fun _ _ => trivial
      | error _ _ =>
        dsimp only
        exact tied_alone (alone_bind (alone_log _ _) fun _ => alone_pure none)
          (alone_bind (alone_log _ _) fun _ => alone_pure none) fun _ _ _ _ => trivial
    dsimp only
    refine captures.bind fun k₁ path path' _ _ => tied_alone ?_ ?_ fun _ _ _ _ => trivial
    · split
      · exact finishes r _
      · exact finishes r _
      · exact alone_bind (alone_tellReport _) fun _ => finishes r _
    · split
      · exact finishes r' _
      · exact finishes r' _
      · exact alone_bind (alone_tellReport _) fun _ => finishes r' _

/-! ## The whole test case -/

variable {plan plan' : SuitePlan} (hk : plan.registry.Isolated) (same : plan.SameWork plan')
include hk same

theorem twin_stages {startedAt startedAt' : Timestamp} {start start' : Float} (read : (start, start') ∈ k.readings) :
    CaseTwin u v False (fun _ => CaseResult.Alike) k (d.stages plan u startedAt start)
      (d.stages plan' v startedAt' start') := by
  unfold CaseDescriptor.stages
  rw [← same.registry, ← same.metadataKeys]
  refine (twin_attemptKeywords d hk).bind fun k₁ _ _ later _ => ?_
  refine (twin_recordResult d plan.metadataKeys (later.2 read)).bind fun k₂ r r' _ alike => ?_
  exact (case_shared (tied_reportOutcome _ _ alike)).bind fun _ _ _ _ _ => twin_pure fun _ _ => alike

omit hk same in
theorem twin_release : CaseTwin u v False AnyValues k (CaseDescriptor.release u) (CaseDescriptor.release v) :=
  (case_onContext twin_cleanUp).bind fun _ _ _ _ _ => case_perform .resetSession

omit hk same in
theorem tied_opening : Tied (tandem u v) False (fun k₁ (x y : Timestamp × Float) => (x.2, y.2) ∈ k₁.readings) k
    d.opening d.opening := by
  refine (tied_perform .now).bind fun k₁ _ _ _ _ => (tied_perform .stopwatch).bind fun k₂ start start' _ read => ?_
  refine (tied_alone (R := AnyValues) (alone_log _ _) (alone_log _ _) fun _ _ _ _ => trivial).bind
    fun k₃ _ _ later _ => ?_
  refine (tied_alone (R := AnyValues) (alone_tellReport _) (alone_tellReport _) fun _ _ _ _ => trivial).bind
    fun k₄ _ _ later' _ => tied_pure fun _ later'' => ?_
  exact (le_trans later (le_trans later' later'')).2 read

theorem twin_runWith : CaseTwin u v False (fun _ => CaseResult.Alike) k (d.runWith plan u) (d.runWith plan' v) := by
  rw [CaseDescriptor.runWith_eq_stages, CaseDescriptor.runWith_eq_stages]
  refine (case_shared (tied_opening d)).bind fun k₁ x y _ read => ?_
  refine (case_andFinally (twin_stages d hk same read) fun _ => twin_release).bind fun k₂ r r' _ alike => ?_
  exact case_log.bind fun _ _ _ _ _ => twin_pure fun _ _ => alike

/-- A test case does the same on any two units, whichever listeners there are, and comes to results that are alike. -/
theorem tied_run : Tied (tandem u v) False (fun _ => CaseResult.Alike) k (d.run plan u) (d.run plan' v) := by
  intro k₁ later
  have fresh : CaseState.Alike u v k₁ (d.freshState u) (d.freshState v) :=
    ⟨⟨rfl, rfl, rfl, rfl, .nil, .nil, .none, rfl⟩, .nil⟩
  refine (twin_runWith d hk same k₁ _ _ later fresh).bind ?_
  rintro k₂ ⟨r, _⟩ ⟨r', _⟩ ⟨grown, matched, _⟩
  exact .done ⟨grown, matched⟩

end

end KeywordSuite
