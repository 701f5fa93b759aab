import KeywordSuite.Proofs.Surroundings
import KeywordSuite.Suite.Run

/-!
# Surroundings that agree

Two surroundings agree along a relation of their states if whatever one does, the other does with the
same outcome and the relation is kept. Then a suite ends in both of them in the same way.
-/

namespace KeywordSuite

namespace Act

variable {σ τ α β : Type}

/-- From related states two actions come to the same outcome, and to related states. -/
def Agree (R : σ → τ → Prop) (p : Act σ α) (q : Act τ α) : Prop :=
  ∀ x y, R x y → (p.run x).1 = (q.run y).1 ∧ R (p.run x).2 (q.run y).2

variable {R : σ → τ → Prop} {p : Act σ α} {q : Act τ α}

theorem agree_pure (a : α) : Agree R (pure a) (pure a) := fun _ _ h => ⟨rfl, h⟩

theorem agree_throw (fault : Fault) : Agree R (throw fault : Act σ α) (throw fault) := fun _ _ h => ⟨rfl, h⟩

theorem Agree.bind (h : Agree R p q) {f : α → Act σ β} {g : α → Act τ β} (hf : ∀ a, Agree R (f a) (g a)) :
    Agree R (p >>= f) (q >>= g) := by
  intro x y hxy
  obtain ⟨outcome, related⟩ := h x y hxy
  rw [run_bind, run_bind]
  cases hp : p.run x with
  | mk r x' =>
    cases hq : q.run y with
    | mk r' y' =>
      rw [hp, hq] at outcome related
      obtain rfl : r = r' := outcome
      cases r with
      | ok a => exact hf a x' y' related
      | error fault => exact ⟨rfl, related⟩

theorem Agree.attempt (h : Agree R p q) : Agree R p.attempt q.attempt := by
  intro x y hxy
  rw [run_attempt, run_attempt]
  exact ⟨congrArg settled (h x y hxy).1, (h x y hxy).2⟩

theorem agree_get {f : σ → Act σ α} {g : τ → Act τ α} (h : ∀ x y, R x y → Agree R (f x) (g y)) :
    Agree R (get >>= f) (get >>= g) := by
  intro x y hxy
  rw [run_bind, run_bind]
  exact h x y hxy x y hxy

theorem agree_ofExcept (r : Except Fault α) : Agree R (Act.ofExcept r) (Act.ofExcept r) := by
  cases r with
  | ok a => exact agree_pure a
  | error fault => exact agree_throw fault

end Act

variable {ω ω' α : Type}

/-- The same sessions, beside related states. -/
def World.Related (R : ω → ω' → Prop) (w : World ω) (w' : World ω') : Prop :=
  w.sessions = w'.sessions ∧ R w.outer w'.outer

theorem World.eq_of_related {view : ω → ω'} {w : World ω} {w' : World ω'}
    (h : World.Related (fun x y => view x = y) w w') : w' = ⟨w.sessions, view w.outer⟩ := by
  obtain ⟨sessions, outer⟩ := h
  cases w'
  cases sessions
  cases outer
  rfl

section

variable {R : ω → ω' → Prop}

theorem Act.Agree.zoom {p : Act ω α} {q : Act ω' α} (h : Act.Agree R p q) :
    Act.Agree (World.Related R) (World.zoom p) (World.zoom q) :=
  fun _ _ related => ⟨(h _ _ related.2).1, related.1, (h _ _ related.2).2⟩

theorem agree_modifySessions (f : SessionTable → SessionTable) :
    Act.Agree (World.Related R) (World.modifySessions f) (World.modifySessions f) :=
  fun _ _ related => ⟨rfl, congrArg f related.1, related.2⟩

end

/-! ## The session registry -/

structure SessionBackend.Agree (R : ω → ω' → Prop) (b : SessionBackend ω) (b' : SessionBackend ω') : Prop where
  log : ∀ level message x y, R x y → R (b.log level message x) (b'.log level message y)
  create : ∀ n config, Act.Agree R (b.create n config) (b'.create n config)
  browse : ∀ n call, Act.Agree R (b.browse n call) (b'.browse n call)
  defaultConfig : b.defaultConfig = b'.defaultConfig
  closeFault : b.closeFault = b'.closeFault

namespace SessionBackend

variable {R : ω → ω' → Prop} {b : SessionBackend ω} {b' : SessionBackend ω'} (unit : UnitId)

theorem agree_liveSession : Act.Agree (World.Related R) (liveSession? unit) (liveSession? unit) := by
  intro w w' related
  rw [run_liveSession, run_liveSession, related.1]
  exact ⟨rfl, related⟩

theorem agree_current : Act.Agree (World.Related R) (current unit) (current unit) := by
  apply (agree_liveSession unit).bind
  intro found
  cases found with
  | some n => exact Act.agree_pure n
  | none => exact Act.agree_throw _

theorem agree_isActive : Act.Agree (World.Related R) (isActive unit) (isActive unit) :=
  (agree_liveSession unit).bind fun _ => Act.agree_pure _

theorem agree_isCurrent (n : SessionId) : Act.Agree (World.Related R) (isCurrent n unit) (isCurrent n unit) :=
  (agree_liveSession unit).bind fun _ => Act.agree_pure _

variable (h : b.Agree R b')
include h

theorem Agree.note (level : LogLevel) (message : String) :
    Act.Agree (World.Related R) (b.note level message) (b'.note level message) :=
  fun _ _ related => ⟨rfl, related.1, h.log level message _ _ related.2⟩

theorem Agree.openSession (config : Option SessionConfig) :
    Act.Agree (World.Related R) (b.openSession config unit) (b'.openSession config unit) := by
  unfold SessionBackend.openSession
  rw [h.defaultConfig]
  apply (agree_liveSession unit).bind
  intro found
  cases found with
  | some n => exact (h.note _ _).bind fun _ => Act.agree_pure n
  | none =>
    apply (agree_modifySessions _).bind
    intro _
    apply (h.note _ _).bind
    intro _
    apply Act.agree_get
    intro w w' related
    rw [related.1]
    apply (h.create _ _).zoom.attempt.bind
    intro created
    cases created with
    | ok _ => exact (agree_modifySessions _).bind fun _ => Act.agree_pure _
    | error fault => exact (h.note _ _).bind fun _ => Act.agree_throw _

theorem Agree.close : Act.Agree (World.Related R) (b.close unit) (b'.close unit) := by
  unfold SessionBackend.close
  rw [h.closeFault]
  cases b'.closeFault with
  | some fault => exact Act.agree_throw fault
  | none =>
    apply (agree_liveSession unit).bind
    intro found
    cases found with
    | none => exact agree_modifySessions _
    | some n =>
      apply (h.browse n .quit).zoom.attempt.bind
      intro quit
      cases quit with
      | ok _ => exact (h.note _ _).bind fun _ => agree_modifySessions _
      | error fault => exact (h.note _ _).bind fun _ => agree_modifySessions _

theorem Agree.reset : Act.Agree (World.Related R) (b.reset unit) (b'.reset unit) :=
  (h.close unit).bind fun _ => agree_modifySessions _

variable {clock : ω → Timestamp} {clock' : ω' → Timestamp} (hclock : ∀ x y, R x y → clock x = clock' y)
include hclock

theorem Agree.onDemand (directory : FilePath) (label : String) : Act.Agree (World.Related R)
    (Screenshots.onDemand b clock directory label unit) (Screenshots.onDemand b' clock' directory label unit) := by
  apply (agree_current unit).attempt.bind
  intro found
  cases found with
  | error fault => exact (h.note _ _).bind fun _ => Act.agree_pure none
  | ok n =>
    apply Act.agree_get
    intro w w' related
    rw [hclock _ _ related.2]
    apply (h.browse n _).zoom.attempt.bind
    intro saved
    cases saved with
    | ok _ => exact (h.note _ _).bind fun _ => Act.agree_pure _
    | error fault => exact (h.note _ _).bind fun _ => Act.agree_pure none

theorem Agree.onFailure (directory : FilePath) (testId testName : String) : Act.Agree (World.Related R)
    (Screenshots.onFailure b clock directory testId testName unit)
    (Screenshots.onFailure b' clock' directory testId testName unit) := by
  apply (agree_isActive unit).bind
  intro live
  cases live with
  | true => exact h.onDemand unit hclock directory _
  | false => exact (h.note _ _).bind fun _ => Act.agree_pure none

end SessionBackend

/-! ## Operations -/

inductive CaptureDevice.Agree (R : ω → ω' → Prop) : CaptureDevice ω → CaptureDevice ω' → Prop
  | absent : Agree R .absent .absent
  | screenshots (directory : FilePath) : Agree R (.screenshots directory) (.screenshots directory)
  | other {onDemand onFailure onDemand' onFailure'}
      (demanded : ∀ label unit, Act.Agree R (onDemand label unit) (onDemand' label unit))
      (failed : ∀ testId testName reason unit,
        Act.Agree R (onFailure testId testName reason unit) (onFailure' testId testName reason unit)) :
      Agree R (.other onDemand onFailure) (.other onDemand' onFailure')

/-- Operations that tell the report or a listener. -/
def SharedOp.isTelling : SharedOp → Bool
  | .report _ | .inform .. => true
  | _ => false

/-- Operations that read a clock, or may do so. -/
def SharedOp.isTimed : SharedOp → Bool
  | .now | .stopwatch | .captureOnDemand .. | .captureOnFailure .. => true
  | _ => false

namespace Surroundings

/-- Surroundings that agree in what they do with sessions, test cases and the world outside. -/
structure AgreeUntimed (R : ω → ω' → Prop) (s : Surroundings ω) (t : Surroundings ω') : Prop
    extends backend : SessionBackend.Agree R s.toSessionBackend t.toSessionBackend where
  sleep : ∀ seconds, Act.Agree R (s.sleep seconds) (t.sleep seconds)
  listActive : Act.Agree R s.source.listActive t.source.listActive
  loadInput : ∀ testId, Act.Agree R (s.source.loadInput testId) (t.source.loadInput testId)
  loadKeywords : ∀ testId, Act.Agree R (s.source.loadKeywords testId) (t.source.loadKeywords testId)
  outside : ∀ action arguments, Act.Agree R (s.outside action arguments) (t.outside action arguments)

/-- Surroundings that agree in everything but what the report and the listeners do. -/
structure Agree (R : ω → ω' → Prop) (s : Surroundings ω) (t : Surroundings ω') : Prop
    extends AgreeUntimed R s t where
  now : ∀ x y, R x y → s.now x = t.now y
  localNow : ∀ x y, R x y → s.localNow x = t.localNow y
  stopwatch : ∀ x y, R x y → s.stopwatch x = t.stopwatch y
  capture : s.capture.Agree R t.capture

/-- Surroundings that agree in everything. -/
structure AgreeFully (R : ω → ω' → Prop) (s : Surroundings ω) (t : Surroundings ω') : Prop
    extends Agree R s t where
  report : ∀ call, Act.Agree (World.Related R) (s.tellReport call) (t.tellReport call)
  inform : ∀ n news, Act.Agree (World.Related R) (s.inform n news) (t.inform n news)

variable {R : ω → ω' → Prop} {s : Surroundings ω} {t : Surroundings ω'}

theorem agree_readClock {clock : ω → α} {clock' : ω' → α} (h : ∀ x y, R x y → clock x = clock' y) :
    Act.Agree (World.Related R) (readClock clock) (readClock clock') :=
  fun _ _ related => ⟨congrArg Except.ok (h _ _ related.2), related⟩

theorem Agree.captureOnDemand (h : s.Agree R t) (label : String) (unit : UnitId) :
    Act.Agree (World.Related R) (s.captureOnDemand label unit) (t.captureOnDemand label unit) := by
  have device := h.capture
  unfold Surroundings.captureOnDemand
  generalize s.capture = c, t.capture = c' at device
  cases device with
  | absent => exact Act.agree_pure none
  | screenshots directory => exact h.backend.onDemand unit h.localNow directory label
  | other demanded failed => exact (demanded label unit).zoom

theorem Agree.captureOnFailure (h : s.Agree R t) (testId testName : String) (reason : Option String)
    (unit : UnitId) : Act.Agree (World.Related R) (s.captureOnFailure testId testName reason unit)
      (t.captureOnFailure testId testName reason unit) := by
  have device := h.capture
  unfold Surroundings.captureOnFailure
  generalize s.capture = c, t.capture = c' at device
  cases device with
  | absent => exact Act.agree_pure none
  | screenshots directory => exact h.backend.onFailure unit h.localNow directory testId testName
  | other demanded failed => exact (failed testId testName reason unit).zoom

theorem AgreeUntimed.handle (h : s.AgreeUntimed R t) {op : SharedOp} (silent : op.isTelling = false)
    (untimed : op.isTimed = false) : Act.Agree (World.Related R) (s.handle op) (t.handle op) := by
  cases op with
  | log level message => exact h.backend.note level message
  | sleep seconds => exact (h.sleep seconds).zoom
  | openSession config unit => exact h.backend.openSession unit config
  | closeSession unit => exact h.backend.close unit
  | resetSession unit => exact h.backend.reset unit
  | currentSession unit => exact SessionBackend.agree_current unit
  | isActive unit => exact SessionBackend.agree_isActive unit
  | isCurrent session unit => exact SessionBackend.agree_isCurrent unit session
  | browse session call => exact (h.browse session call).zoom
  | loadInput testId => exact (h.loadInput testId).zoom
  | loadKeywords testId => exact (h.loadKeywords testId).zoom
  | outside action arguments => exact (h.outside action arguments).zoom
  | report | inform => cases silent
  | now | stopwatch | captureOnDemand | captureOnFailure => cases untimed

theorem Agree.handle (h : s.Agree R t) {op : SharedOp} (silent : op.isTelling = false) :
    Act.Agree (World.Related R) (s.handle op) (t.handle op) := by
  cases op with
  | now => exact agree_readClock h.now
  | stopwatch => exact agree_readClock h.stopwatch
  | captureOnDemand label unit => exact h.captureOnDemand label unit
  | captureOnFailure testId testName reason unit => exact h.captureOnFailure testId testName reason unit
  | _ => exact h.toAgreeUntimed.handle silent rfl

theorem AgreeFully.handle (h : s.AgreeFully R t) (op : SharedOp) :
    Act.Agree (World.Related R) (s.handle op) (t.handle op) := by
  cases hop : op.isTelling with
  | false => exact h.toAgree.handle hop
  | true =>
    cases op with
    | report call => exact h.report call
    | inform listener news => exact h.inform listener news
    | _ => cases hop

/-! ## Runs -/

section

variable (plan : SuitePlan) (h : s.AgreeFully R t)
include h

theorem AgreeFully.run (p : Program SharedOp.Reply α) : ∀ {w : World ω} {w' : World ω'}, World.Related R w w' →
    (p.run s.handle w).1 = (p.run t.handle w').1 ∧
      World.Related R (p.run s.handle w).2 (p.run t.handle w').2 := by
  induction p with
  | done a => exact fun related => ⟨rfl, related⟩
  | call op resume ih =>
    intro w w' related
    obtain ⟨reply, related⟩ := h.handle op w w' related
    unfold Program.run
    dsimp only
    rw [reply]
    exact ih _ related

theorem AgreeFully.perform (p : SharedProcedure α) :
    Act.Agree (World.Related R) (s.perform p) (t.perform p) := fun _ _ related => h.run _ related

theorem AgreeFully.runEach : ∀ cases, Act.Agree (World.Related R) (s.runEach plan cases) (t.runEach plan cases)
  | [] => Act.agree_pure []
  | _ :: rest => (h.perform _).bind fun _ => (runEach rest).bind fun _ => Act.agree_pure _

theorem AgreeFully.step (p : Pool) (worker : Nat) {w : World ω} {w' : World ω'} (related : World.Related R w w') :
    (p.step s plan worker w).1 = (p.step t plan worker w').1 ∧
      World.Related R (p.step s plan worker w).2 (p.step t plan worker w').2 := by
  unfold Pool.step
  cases p.workers[worker]? with
  | none => exact ⟨rfl, related⟩
  | some doing =>
    cases doing with
    | none => cases p.waiting <;> exact ⟨rfl, related⟩
    | some r =>
      obtain ⟨place, rest⟩ := r
      cases rest with
      | done r => exact ⟨rfl, related⟩
      | call op resume =>
        obtain ⟨reply, related⟩ := h.handle op w w' related
        dsimp only
        rw [reply]
        exact ⟨rfl, related⟩

theorem AgreeFully.schedule : ∀ (turns : List Nat) {x : Pool × World ω} {y : Pool × World ω'},
    x.1 = y.1 → World.Related R x.2 y.2 →
    let left := turns.foldl (fun (p, w) worker => p.step s plan worker w) x
    let left' := turns.foldl (fun (p, w) worker => p.step t plan worker w) y
    left.1 = left'.1 ∧ World.Related R left.2 left'.2
  | [], _, _, pool, related => ⟨pool, related⟩
  | worker :: turns, (p, w), (_, w'), rfl, related => by
    obtain ⟨pool, related⟩ := h.step plan p worker related
    exact schedule turns pool related

theorem AgreeFully.finishRunning : ∀ (workers : List (Option Running)) {w : World ω} {w' : World ω'},
    World.Related R w w' →
    (Pool.finishRunning s workers w).1 = (Pool.finishRunning t workers w').1 ∧
      World.Related R (Pool.finishRunning s workers w).2 (Pool.finishRunning t workers w').2
  | [], _, _, related => ⟨rfl, related⟩
  | none :: rest, _, _, related => finishRunning rest related
  | some r :: rest, w, w', related => by
    obtain ⟨outcome, related⟩ := h.run r.rest related
    obtain ⟨others, related⟩ := finishRunning rest related
    unfold Pool.finishRunning
    dsimp only
    rw [outcome, others]
    exact ⟨rfl, related⟩

theorem AgreeFully.finishWaiting : ∀ (waiting : List (Nat × CaseDescriptor)) {w : World ω} {w' : World ω'},
    World.Related R w w' →
    (Pool.finishWaiting s plan waiting w).1 = (Pool.finishWaiting t plan waiting w').1 ∧
      World.Related R (Pool.finishWaiting s plan waiting w).2 (Pool.finishWaiting t plan waiting w').2
  | [], _, _, related => ⟨rfl, related⟩
  | (place, d) :: rest, w, w', related => by
    obtain ⟨outcome, related⟩ := h.run (Pool.program plan d (.worker 0)) related
    obtain ⟨others, related⟩ := finishWaiting rest related
    unfold Pool.finishWaiting
    dsimp only
    rw [outcome, others]
    exact ⟨rfl, related⟩

theorem AgreeFully.runPool (cases : List CaseDescriptor) (workers : Nat) (schedule : List Nat) :
    Act.Agree (World.Related R) (s.runPool plan cases workers schedule) (t.runPool plan cases workers schedule) := by
  have outcomes : Act.Agree (World.Related R)
      (Act.make fun w => (.ok (Pool.outcomes s plan cases workers schedule w).1,
        (Pool.outcomes s plan cases workers schedule w).2))
      (Act.make fun w => (.ok (Pool.outcomes t plan cases workers schedule w).1,
        (Pool.outcomes t plan cases workers schedule w).2)) := by
    intro w w' related
    have start : World.Related R (Pool.start cases workers, w).2 (Pool.start cases workers, w').2 := related
    obtain ⟨pool, related⟩ := h.schedule plan schedule rfl start
    obtain ⟨running, related⟩ := h.finishRunning (schedule.foldl
      (fun (p, w) worker => p.step s plan worker w) (Pool.start cases workers, w)).1.workers related
    obtain ⟨waited, related⟩ := h.finishWaiting plan (schedule.foldl
      (fun (p, w) worker => p.step s plan worker w) (Pool.start cases workers, w)).1.waiting related
    show Except.ok (Pool.outcomes s plan cases workers schedule w).1 =
        Except.ok (Pool.outcomes t plan cases workers schedule w').1 ∧
      World.Related R (Pool.outcomes s plan cases workers schedule w).2
        (Pool.outcomes t plan cases workers schedule w').2
    unfold Pool.outcomes
    dsimp only
    rw [← pool, ← running, ← waited]
    exact ⟨rfl, related⟩
  exact outcomes.bind fun _ => Act.agree_ofExcept _

theorem AgreeFully.runAll (cases : List CaseDescriptor) (schedule : List Nat) :
    Act.Agree (World.Related R) (s.runAll plan cases schedule) (t.runAll plan cases schedule) := by
  unfold Surroundings.runAll
  dsimp only
  split
  · exact h.runEach plan cases
  · exact (h.backend.note _ _).bind fun _ => h.runPool plan cases _ schedule

theorem AgreeFully.runListed (schedule : List Nat) :
    Act.Agree (World.Related R) (s.runListed plan schedule) (t.runListed plan schedule) := by
  apply (agree_readClock h.now).bind
  intro startedAt
  apply (h.backend.note _ _).bind
  intro _
  apply (h.perform _).bind
  intro _
  apply h.listActive.zoom.attempt.bind
  intro listed
  cases listed with
  | error fault =>
    apply (h.backend.note _ _).bind
    intro _
    exact (h.perform _).bind fun _ => Act.agree_pure _
  | ok cases =>
    apply (h.backend.note _ _).bind
    intro _
    apply (h.runAll plan cases schedule).bind
    intro results
    apply (h.perform _).bind
    intro ended
    dsimp only
    cases ended.summary with
    | error fault => exact Act.agree_pure _
    | ok summary =>
      apply (h.backend.note _ _).bind
      intro _
      exact (h.backend.note _ _).bind fun _ => Act.agree_pure _

/-- Where two surroundings agree in everything, a suite ends in both in the same way. -/
theorem AgreeFully.runSuite (schedule : List Nat) {w : World ω} {w' : World ω'} (related : World.Related R w w') :
    (s.runSuite plan schedule w).1 = (t.runSuite plan schedule w').1 ∧
      World.Related R (s.runSuite plan schedule w).2 (t.runSuite plan schedule w').2 := by
  obtain ⟨outcome, related⟩ := h.runListed plan schedule w w' related
  unfold Surroundings.runSuite
  cases hs : (s.runListed plan schedule).run w with
  | mk r x =>
    cases ht : (t.runListed plan schedule).run w' with
    | mk r' x' =>
      rw [hs, ht] at outcome related
      obtain rfl : r = r' := outcome
      cases r <;> exact ⟨rfl, related⟩

end

/-! ## What carries over -/

section

variable (seen : ∀ x, ∃ y, R x y)

theorem ordinarily_of_agree {p : Act ω α} {q : Act ω' α} (h : Act.Agree R p q) (seen : ∀ x, ∃ y, R x y)
    (hq : q.Ordinarily) : p.Ordinarily := by
  intro x
  obtain ⟨y, hxy⟩ := seen x
  rw [(h x y hxy).1]
  exact hq y

theorem ordinarily_of_agree_zoom {p : Act ω α} {q : Act (World ω') α}
    (h : Act.Agree (World.Related R) (World.zoom p) q) (seen : ∀ x, ∃ y, R x y) (hq : q.Ordinarily) :
    p.Ordinarily := by
  intro x
  obtain ⟨y, hxy⟩ := seen x
  have related : World.Related R ⟨.empty, x⟩ ⟨.empty, y⟩ := ⟨rfl, hxy⟩
  have outcome : (p.run x).1 = (q.run ⟨.empty, y⟩).1 := (h _ _ related).1
  rw [outcome]
  exact hq _

variable (h : s.AgreeFully R t)
include h seen

theorem AgreeFully.uninterrupted (ht : t.Uninterrupted) : s.Uninterrupted where
  create n config := ordinarily_of_agree (h.create n config) seen (ht.create n config)
  browse n call := ordinarily_of_agree (h.browse n call) seen (ht.browse n call)
  sleep seconds := ordinarily_of_agree (h.sleep seconds) seen (ht.sleep seconds)
  loadInput testId := ordinarily_of_agree (h.loadInput testId) seen (ht.loadInput testId)
  loadKeywords testId := ordinarily_of_agree (h.loadKeywords testId) seen (ht.loadKeywords testId)
  report tell hr call := by
    have told : World.zoom (tell call) = s.tellReport call := by unfold Surroundings.tellReport; rw [hr]
    have agrees := h.report call
    rw [← told] at agrees
    exact ordinarily_of_agree_zoom agrees seen (ordinarily_tellReport ht.report call)
  capture onDemand onFailure hc := by
    have device := h.capture
    rw [hc] at device
    generalize ht' : t.capture = c' at device
    cases device with
    | other demanded failed =>
      obtain ⟨onDemand_ordinary, onFailure_ordinary⟩ := ht.capture _ _ ht'
      exact ⟨fun label unit => ordinarily_of_agree (demanded label unit) seen (onDemand_ordinary label unit),
        fun testId testName reason unit => ordinarily_of_agree (failed testId testName reason unit) seen
          (onFailure_ordinary testId testName reason unit)⟩
  listeners l hl news := by
    obtain ⟨n, hn⟩ := List.mem_iff_getElem?.1 hl
    have told : World.zoom (l.tell news) = s.inform n news := by unfold Surroundings.inform; rw [hn]
    have agrees := h.inform n news
    rw [← told] at agrees
    exact ordinarily_of_agree_zoom agrees seen (ordinarily_inform ht.listeners n news)
  outside action arguments := ordinarily_of_agree (h.outside action arguments) seen (ht.outside action arguments)
  closes := h.backend.closeFault.trans ht.closes

omit seen in
theorem AgreeFully.later {w₀ w : World ω} {w₀' : World ω'} (start : World.Related R w₀ w₀')
    (later : s.Later w₀ w) : ∃ w', t.Later w₀' w' ∧ World.Related R w w' := by
  induction later with
  | refl => exact ⟨w₀', .refl, start⟩
  | step op _ ih =>
    obtain ⟨w', later, related⟩ := ih
    exact ⟨_, later.step op, (h.handle op _ _ related).2⟩

theorem AgreeFully.orderly (ht : t.Orderly) : s.Orderly where
  toUninterrupted := h.uninterrupted seen ht.toUninterrupted
  steady w₀ w later := by
    obtain ⟨y, hy⟩ := seen w₀.outer
    have start : World.Related R w₀ ⟨w₀.sessions, y⟩ := ⟨rfl, hy⟩
    obtain ⟨w', later', related⟩ := h.later start later
    have steady := ht.steady _ _ later'
    rw [h.stopwatch _ _ related.2, h.stopwatch _ _ hy]
    exact steady

theorem AgreeFully.uninterrupted_registry {registry : KeywordRegistry} (hr : registry.Uninterrupted t) :
    registry.Uninterrupted s := by
  intro name e he id c w
  obtain ⟨y, hy⟩ := seen w.outer
  have related : World.Related R w ⟨w.sessions, y⟩ := ⟨rfl, hy⟩
  have ordinary := hr name e he id c ⟨w.sessions, y⟩
  unfold Meets at ordinary ⊢
  rw [keeps_actual] at ordinary ⊢
  rw [(h.run _ related).1]
  exact ordinary

end

end Surroundings

end KeywordSuite
