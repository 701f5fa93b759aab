import KeywordSuite.Proofs.Case.Stages
import KeywordSuite.Proofs.Keyword.Manners

/-!
# How test cases deal with sessions

A test case whose keywords deal well with sessions does so as a whole. Whatever stops it, it ends
with the session of its unit released, and one with a failed result has shown its failure before.
-/

namespace KeywordSuite

section

variable {u : UnitId} {σ α β : Type}

/-! ## Shared procedures that have to do with no session -/

/-- The protocol of procedures that have to do with no session. -/
def apartProtocol : Protocol SharedOp.Reply Unit where
  begins _ op _ := op.isApart = true
  answers _ _ _ := True
  next _ _ _ := ()

def ApartProgram (p : Program SharedOp.Reply α) : Prop := p.Keeps apartProtocol () fun _ _ => True

def Apart (p : SharedProcedure α) : Prop := ApartProgram (ExceptT.run p)

theorem after_apart {op : SharedOp} (h : op.isApart = true) (g : Grip) (reply : Except Fault op.Reply) :
    g.after op reply = g := by
  cases op <;> first | rfl | cases h

theorem isBusy_of_isApart {op : SharedOp} (h : op.isApart = true) : op.isBusy = false := by
  cases op <;> first | rfl | cases h

theorem ApartProgram.keeps {p : Program SharedOp.Reply α} :
    ApartProgram p → ∀ g, p.Keeps (caseProtocol u) g fun _ h => h = g := by
  induction p with
  | done a => intro _ g; rfl
  | call op resume ih =>
    intro h g
    obtain ⟨_, apart, rest⟩ := h
    have begins : (caseProtocol u).begins g op g := by
      apply begins_modest (modest_of_isApart op apart)
      intro busy
      rw [isBusy_of_isApart apart] at busy
      cases busy
    refine ⟨g, begins, fun reply _ => ?_⟩
    have same : (caseProtocol u).next g op reply = g := by
      show ({ g with grip := g.grip.after op reply } : CaseStage) = g
      rw [after_apart apart]
    rw [same]
    exact ih reply (rest reply trivial) g

theorem Apart.keeps {p : SharedProcedure α} (hp : Apart p) (g : CaseStage) :
    (ExceptT.run p).Keeps (caseProtocol u) g fun _ h => h = g := ApartProgram.keeps hp g

theorem apart_pure (a : α) : Apart (pure a) := trivial

theorem apart_perform (op : SharedOp) (h : op.isApart = true) : Apart (SharedProcedure.perform op) :=
  ⟨(), h, fun _ _ => trivial⟩

theorem Apart.bind {p : SharedProcedure α} {f : α → SharedProcedure β} (hp : Apart p)
    (hf : ∀ a, Apart (f a)) : Apart (p >>= f) := by
  apply keeps_seq.2
  apply Program.Keeps.mono _ hp
  intro r _ _
  cases r with
  | ok a => exact hf a
  | error fault => exact trivial

theorem Apart.attempt {p : SharedProcedure α} (hp : Apart p) : Apart (Procedure.attempt p) :=
  keeps_attempt.2 (Program.Keeps.mono (fun _ _ _ => trivial) hp)

theorem apart_log (level : LogLevel) (message : String) : Apart (SharedProcedure.log level message) :=
  apart_perform (.log level message) rfl

theorem apart_tellReport (call : ReportCall) : Apart (tellReport call) := by
  apply (apart_perform (.report call) rfl).attempt.bind
  intro told
  cases told with
  | ok answer => exact apart_pure answer
  | error fault => exact (apart_log _ _).bind fun _ => apart_pure none

theorem apart_informAll (news : SuiteNews) : ∀ n names, Apart (informAll news n names)
  | _, [] => apart_pure ()
  | n, name :: rest => by
    apply (apart_perform (.inform n news) rfl).attempt.bind
    intro told
    cases told with
    | ok _ => exact apart_informAll news (n + 1) rest
    | error fault => exact (apart_log _ _).bind fun _ => apart_informAll news (n + 1) rest

theorem apart_reportExecution (d : CaseDescriptor) (e : KeywordExecution) : Apart (d.reportExecution e) := by
  unfold CaseDescriptor.reportExecution
  split
  · exact apart_pure ()
  · exact (apart_tellReport _).bind fun _ => apart_pure ()
  · exact (apart_tellReport _).bind fun _ => apart_pure ()

theorem apart_opening (d : CaseDescriptor) : Apart d.opening := by
  apply (apart_perform .now rfl).bind
  intro startedAt
  apply (apart_perform .stopwatch rfl).bind
  intro start
  apply (apart_log _ _).bind
  intro _
  exact (apart_tellReport _).bind fun _ => apart_pure _

/-! ## Procedures over a state, while the test case has not failed -/

/-- Started for a unit, a procedure keeps to the protocol, stays with the unit and shows no failure. -/
def Mannerly (u : UnitId) (unitOf : σ → UnitId) (p : ExceptT Fault (StateT σ (Program SharedOp.Reply)) α) :
    Prop :=
  ∀ x g, unitOf x = u → g.shown = none →
    Meets (caseProtocol u) p x g fun _ y h => unitOf y = u ∧ h.shown = none

def Context.unit (c : Context) : UnitId := c.identity.unit

def CaseState.unit (st : CaseState) : UnitId := st.context.identity.unit

section

variable {unitOf : σ → UnitId}

theorem mannerly_pure (a : α) :
    Mannerly u unitOf (pure a : ExceptT Fault (StateT σ (Program SharedOp.Reply)) α) :=
  fun _ _ hx hg => ⟨hx, hg⟩

theorem mannerly_get : Mannerly u unitOf (get : ExceptT Fault (StateT σ (Program SharedOp.Reply)) σ) :=
  fun _ _ hx hg => ⟨hx, hg⟩

theorem mannerly_modify {f : σ → σ} (h : ∀ x, unitOf (f x) = unitOf x) :
    Mannerly u unitOf (modify f : ExceptT Fault (StateT σ (Program SharedOp.Reply)) PUnit) :=
  fun x _ hx hg => ⟨(h x).trans hx, hg⟩

theorem mannerly_then {p : ExceptT Fault (StateT σ (Program SharedOp.Reply)) α}
    {f : α → ExceptT Fault (StateT σ (Program SharedOp.Reply)) β} {x : σ} {g : CaseStage}
    (hp : Meets (caseProtocol u) p x g fun _ y h => unitOf y = u ∧ h.shown = none)
    (hf : ∀ a, Mannerly u unitOf (f a)) :
    Meets (caseProtocol u) (p >>= f) x g fun _ y h => unitOf y = u ∧ h.shown = none := by
  rw [meets_bind]
  refine hp.mono ?_
  intro r y h hr
  cases r with
  | ok a => exact hf a y h hr.1 hr.2
  | error fault => exact hr

theorem Mannerly.bind {p : ExceptT Fault (StateT σ (Program SharedOp.Reply)) α}
    {f : α → ExceptT Fault (StateT σ (Program SharedOp.Reply)) β} (hp : Mannerly u unitOf p)
    (hf : ∀ a, Mannerly u unitOf (f a)) : Mannerly u unitOf (p >>= f) :=
  fun x g hx hg => mannerly_then (hp x g hx hg) hf

end

theorem mannerly_shared {p : SharedProcedure α} (hp : Apart p) :
    Mannerly u Context.unit (ContextProcedure.shared p) := by
  intro c g hc hg
  refine meets_shared.2 ((hp.keeps g).mono ?_)
  intro r h hr
  subst hr
  exact ⟨hc, hg⟩

theorem mannerly_onContext {p : ContextProcedure α} (hp : Mannerly u Context.unit p) :
    Mannerly u CaseState.unit (CaseProcedure.onContext p) :=
  fun st g hst hg => meets_onContext.2 (hp st.context g hst hg)

theorem mannerly_contextLog (level : LogLevel) (message : String) :
    Mannerly u Context.unit (ContextProcedure.log level message) := mannerly_shared (apart_log level message)

theorem mannerly_contextFail (reason : String) : Mannerly u Context.unit (ContextProcedure.fail reason) :=
  (mannerly_modify fun _ => rfl).bind fun _ => mannerly_contextLog _ _

theorem mannerly_attempt {p : CaseProcedure α} (hp : Mannerly u CaseState.unit p) :
    Mannerly u CaseState.unit p.attempt :=
  fun st g hst hg => meets_caseAttempt.2 (hp st g hst hg)

theorem mannerly_ofExcept (e : Except Fault α) : Mannerly u CaseState.unit (CaseProcedure.ofExcept e) :=
  fun _ _ hst hg => (meets_ofExcept e).2 ⟨hst, hg⟩

/-! ## Dispatching -/

theorem mannerly_judge (e : KeywordEntry) (returned : Value) :
    Mannerly u Context.unit (KeywordRegistry.judge e returned) := by
  have logs : ∀ level message (x : KeywordStatus × Option String), Mannerly u Context.unit (do
      ContextProcedure.log level message; return x : ContextProcedure (KeywordStatus × Option String)) :=
    fun level message x => (mannerly_contextLog level message).bind fun _ => mannerly_pure x
  unfold KeywordRegistry.judge
  split
  · exact logs _ _ _
  · split <;> exact logs _ _ _
  · split
    · apply (mannerly_contextLog _ _).bind
      intro _
      apply mannerly_get.bind
      intro c
      split
      · exact (mannerly_contextFail _).bind fun _ => mannerly_pure _
      · exact mannerly_pure _
    · exact logs _ _ _

theorem mannerly_conclude (e : Except Fault KeywordExecution) :
    Mannerly u Context.unit (KeywordRegistry.conclude e) := fun _ _ hc hg => ⟨hc, hg⟩

theorem mannerly_runEntry {e : KeywordEntry} (h : ∀ id, Courteous id (ExceptT.run (e.body id))) :
    Mannerly u Context.unit (KeywordRegistry.runEntry e) := by
  have stopwatch : Mannerly u Context.unit (ContextProcedure.perform .stopwatch) :=
    mannerly_shared (apart_perform .stopwatch rfl)
  unfold KeywordRegistry.runEntry
  apply (mannerly_contextLog _ _).bind
  intro _
  apply stopwatch.bind
  intro start c g hc hg
  rw [meets_bind, meets_get]
  dsimp only
  subst hc
  have ran : Meets (caseProtocol c.unit) (e.body c.identity).runIn c g fun _ c' h =>
      c'.unit = c.unit ∧ h.shown = none := (h c.identity).polite c g rfl hg
  refine mannerly_then (meets_attempt.2 ran) fun outcome => ?_
  apply stopwatch.bind
  intro stop
  cases outcome with
  | error fault =>
    apply (mannerly_contextLog _ _).bind
    intro _
    exact (mannerly_contextFail _).bind fun _ => mannerly_conclude _
  | ok returned =>
    apply (mannerly_contextLog _ _).bind
    intro _
    exact (mannerly_judge e returned).bind fun _ => mannerly_conclude _

theorem mannerly_dispatch {registry : KeywordRegistry} (h : registry.Courteous) (name : Option String) :
    Mannerly u Context.unit (registry.dispatch name) := by
  unfold KeywordRegistry.dispatch
  split
  · apply (mannerly_contextLog _ _).bind
    intro _
    exact (mannerly_contextFail _).bind fun _ => mannerly_pure _
  · rename_i e he
    exact mannerly_runEntry (h name e he)

/-! ## The stages of a test case -/

variable (d : CaseDescriptor)

theorem mannerly_caseLog (level : LogLevel) (message : String) :
    Mannerly u CaseState.unit (CaseProcedure.log level message) :=
  mannerly_onContext (mannerly_contextLog level message)

theorem mannerly_caseFail (reason : String) : Mannerly u CaseState.unit (CaseProcedure.fail reason) :=
  mannerly_onContext (mannerly_contextFail reason)

theorem mannerly_casePerform (op : SharedOp) (h : op.isApart = true) :
    Mannerly u CaseState.unit (CaseProcedure.perform op) :=
  mannerly_onContext (mannerly_shared (apart_perform op h))

theorem mannerly_runKeywords {registry : KeywordRegistry} (h : registry.Courteous) :
    ∀ keywords, Mannerly u CaseState.unit (d.runKeywords registry keywords)
  | [] => mannerly_pure ()
  | v :: rest => by
    apply (mannerly_ofExcept _).bind
    intro text
    cases text with
    | none => exact mannerly_runKeywords h rest
    | some keyword =>
      apply (mannerly_onContext (mannerly_shared (apart_tellReport _))).bind
      intro _
      apply (mannerly_onContext (mannerly_dispatch h (some keyword))).bind
      intro e
      refine Mannerly.bind (mannerly_modify ?_) ?_
      · exact fun _ => rfl
      intro _
      apply (mannerly_onContext (mannerly_shared (apart_reportExecution d e))).bind
      intro _
      apply mannerly_get.bind
      intro st
      split
      · exact mannerly_caseLog _ _
      · exact mannerly_runKeywords h rest

theorem mannerly_execute {registry : KeywordRegistry} (h : registry.Courteous) :
    Mannerly u CaseState.unit (d.execute registry) := by
  apply (mannerly_casePerform (.loadInput d.testId) rfl).bind
  intro data
  refine Mannerly.bind (mannerly_modify ?_) ?_
  · exact fun _ => rfl
  intro _
  apply (mannerly_casePerform (.loadKeywords d.testId) rfl).bind
  intro keywords
  split
  · exact mannerly_caseFail _
  · exact mannerly_runKeywords d h _

theorem mannerly_attemptKeywords {registry : KeywordRegistry} (h : registry.Courteous) :
    Mannerly u CaseState.unit (d.attemptKeywords registry) := by
  apply (mannerly_attempt (mannerly_execute d h)).bind
  intro executed
  cases executed with
  | ok _ => exact mannerly_pure ()
  | error fault => exact (mannerly_caseLog _ _).bind fun _ => mannerly_caseFail _

theorem mannerly_recordResult (keys : List String) (startedAt : Timestamp) (start : Float) :
    Mannerly u CaseState.unit (d.recordResult keys startedAt start) := by
  have builds : Mannerly u CaseState.unit (d.buildResult keys startedAt start) := by
    apply mannerly_get.bind
    intro st
    apply (mannerly_ofExcept _).bind
    intro metadata
    apply (mannerly_casePerform .now rfl).bind
    intro completedAt
    exact (mannerly_casePerform .stopwatch rfl).bind fun _ => mannerly_ofExcept _
  have fails : Mannerly u CaseState.unit (d.buildFailure startedAt start) := by
    apply mannerly_get.bind
    intro st
    apply (mannerly_casePerform .now rfl).bind
    intro completedAt
    exact (mannerly_casePerform .stopwatch rfl).bind fun _ => mannerly_ofExcept _
  apply (mannerly_attempt builds).bind
  intro built
  cases built with
  | ok r => exact mannerly_pure r
  | error fault =>
    apply (mannerly_caseLog _ _).bind
    intro _
    exact (mannerly_caseFail _).bind fun _ => fails

theorem keeps_then_apart {p : SharedProcedure α} {f : α → SharedProcedure β} {g : CaseStage}
    {I : CaseStage → Prop} (hp : (ExceptT.run p).Keeps (caseProtocol u) g fun _ h => I h)
    (hf : ∀ a, Apart (f a)) : (ExceptT.run (p >>= f)).Keeps (caseProtocol u) g fun _ h => I h := by
  rw [keeps_seq]
  refine hp.mono ?_
  intro r h hr
  cases r with
  | error fault => exact hr
  | ok a =>
    refine ((hf a).keeps h).mono ?_
    intro _ k hk
    subst hk
    exact hr

theorem keeps_captureFailure (r : CaseResult) {g : CaseStage} (hg : g.shown = none) :
    (ExceptT.run (CaseDescriptor.captureFailure r u)).Keeps (caseProtocol u) g fun _ h =>
      h.shown = some (r.testId, r.testName) := by
  have shows : (ExceptT.run (SharedProcedure.perform
      (.captureOnFailure r.testId r.testName r.failureReason u)).attempt).Keeps (caseProtocol u) g
      fun _ h => h.shown = some (r.testId, r.testName) := by
    rw [keeps_attempt, keeps_perform]
    refine ⟨{ g with shown := some (r.testId, r.testName) }, ⟨?_, ?_, fun _ => hg, .inr ⟨_, rfl, rfl⟩⟩,
      fun _ _ => rfl⟩
    · intro unit hu
      exact (Option.some.inj hu).symm
    · intro session call hop
      cases hop
  refine keeps_then_apart shows fun captured => ?_
  cases captured with
  | ok path => exact apart_pure path
  | error fault => exact (apart_log _ _).bind fun _ => apart_pure none

def CaseStage.Shows (h : CaseStage) (r : CaseResult) : Prop :=
  r.passed = false → h.shown = some (r.testId, r.testName)

/-- A failed result is shown by a screenshot of the failure before anything is told of it. -/
theorem keeps_reportOutcome (listeners : List String) (r : CaseResult) {g : CaseStage}
    (hg : g.shown = none) :
    (ExceptT.run (CaseDescriptor.reportOutcome listeners r u)).Keeps (caseProtocol u) g fun _ h =>
      h.Shows r := by
  have informs : Apart (informAll (.result r) 0 listeners) := apart_informAll _ _ _
  unfold CaseDescriptor.reportOutcome
  cases hr : r.passed with
  | true =>
    refine Program.Keeps.mono ?_ (Apart.keeps ((apart_tellReport _).bind fun _ => informs) g)
    intro _ _ _ failed
    rw [hr] at failed
    cases failed
  | false =>
    have finishes : Apart (do
        let _ ← tellReport (.finishCase .failed r.testId r.testName
          ("Test failed: " ++ r.failureReason.getD "None"))
        informAll (.result r) 0 listeners) := (apart_tellReport _).bind fun _ => informs
    have shows : (ExceptT.run (CaseDescriptor.captureFailure r u)).Keeps (caseProtocol u) g fun _ h =>
        h.Shows r := (keeps_captureFailure r hg).mono fun _ _ shown _ => shown
    simp only [Bool.false_eq_true, if_false]
    refine keeps_then_apart shows fun path => ?_
    split
    · exact finishes
    · exact finishes
    · exact (apart_tellReport _).bind fun _ => finishes

/-- A test case that ended: its session is released, and a failed result was shown before. -/
def CaseStage.Over (r : Except Fault CaseResult) (h : CaseStage) : Prop :=
  h.grip = .released ∧ ∀ res, r = .ok res → h.Shows res

theorem meets_stages {plan : SuitePlan} (hk : plan.registry.Courteous) (startedAt : Timestamp)
    (start : Float) {st : CaseState} {g : CaseStage} (hst : st.unit = u) (hg : g.shown = none) :
    Meets (caseProtocol u) (d.stages plan u startedAt start) st g fun r st' h =>
      st'.unit = u ∧ ∀ res, r = .ok res → h.Shows res := by
  unfold CaseDescriptor.stages
  rw [meets_bind]
  refine (mannerly_attemptKeywords d hk st g hst hg).mono ?_
  intro r st₁ g₁ h₁
  cases r with
  | error fault => exact ⟨h₁.1, fun res h => by cases h⟩
  | ok _ =>
    dsimp only
    rw [meets_bind]
    refine (mannerly_recordResult d plan.metadataKeys startedAt start st₁ g₁ h₁.1 h₁.2).mono ?_
    intro r st₂ g₂ h₂
    cases r with
    | error fault => exact ⟨h₂.1, fun res h => by cases h⟩
    | ok res =>
      dsimp only
      rw [meets_bind]
      refine meets_onContext.2 (meets_shared.2 ((keeps_reportOutcome plan.listeners res h₂.2).mono ?_))
      intro r g₃ shown
      cases r with
      | error fault => exact ⟨h₂.1, fun res h => by cases h⟩
      | ok _ =>
        refine ⟨h₂.1, fun res' h => ?_⟩
        cases h
        exact shown

theorem meets_release {st : CaseState} {g : CaseStage} (hst : st.unit = u) :
    Meets (caseProtocol u) (CaseDescriptor.release u) st g fun r _ h =>
      r = .ok () ∧ h.grip = .released ∧ h.shown = g.shown := by
  unfold CaseDescriptor.release
  rw [meets_bind, meets_onContext]
  refine (caseProtocol_cleanUp hst).mono ?_
  intro r c h hr
  obtain ⟨rfl, -, kept⟩ := hr
  refine meets_onContext.2 (meets_perform.2 ⟨h, begins_modest (modest_of_unit rfl) ?_, ?_⟩)
  · intro busy
    cases busy
  · intro reply answered
    obtain ⟨_, rfl⟩ := answered rfl
    exact ⟨rfl, rfl, kept⟩

theorem meets_runWith {plan : SuitePlan} (hk : plan.registry.Courteous) {st : CaseState} (hst : st.unit = u) :
    Meets (caseProtocol u) (d.runWith plan u) st ⟨.released, none⟩ fun r _ h => h.Over r := by
  rw [CaseDescriptor.runWith_eq_stages, meets_bind]
  refine meets_onContext.2 (meets_shared.2 (((apart_opening d).keeps _).mono ?_))
  intro r g same
  subst same
  cases r with
  | error fault => exact ⟨rfl, fun res h => by cases h⟩
  | ok times =>
    dsimp only
    rw [meets_bind, meets_andFinally]
    refine (meets_stages d hk times.1 times.2 hst rfl).mono ?_
    intro r st₁ g₁ h₁
    refine (meets_release h₁.1).mono ?_
    intro r' st₂ g₂ h₂
    obtain ⟨rfl, released, kept⟩ := h₂
    cases r with
    | error fault => exact ⟨released, fun res h => by cases h⟩
    | ok res =>
      have logged := (apart_log .info (d.eventText (if res.passed then "passed" else "failed"))).keeps (u := u) g₂
      dsimp only [lastFault]
      rw [meets_bind]
      refine meets_onContext.2 (meets_shared.2 (logged.mono ?_))
      intro r g₃ same
      subst same
      cases r with
      | error fault => exact ⟨released, fun res h => by cases h⟩
      | ok _ =>
        refine ⟨released, fun res' h failed => ?_⟩
        cases h
        exact kept.trans (h₁.2 res rfl failed)

/-- A whole test case keeps to the protocol of its unit and ends with its session released. -/
theorem keeps_run {plan : SuitePlan} (hk : plan.registry.Courteous) (u : UnitId) :
    (ExceptT.run (d.run plan u)).Keeps (caseProtocol u) ⟨.released, none⟩ fun r h => h.Over r := by
  refine (Program.keeps_bind ((d.runWith plan u).run (d.freshState u)) _ _ _).2 ?_
  have fresh : (d.freshState u).unit = u := rfl
  refine Program.Keeps.mono ?_ (meets_runWith d hk fresh)
  intro r h ending
  exact ending

end

end KeywordSuite
