import KeywordSuite.Proofs.Surroundings

/-!
# Where actions lead

A course says in which faults an action may end, and to which states it may lead. What is put together from
actions that keep to a course keeps to it, and so does every operation of a suite in surroundings whose parts do.
-/

namespace KeywordSuite

/-- The faults that actions may end in, and the states that they may lead to. -/
structure Course (τ : Type) where
  ends : Fault → Prop
  leads : τ → τ → Prop
  ordinary : ∀ {fault}, fault.isInterrupt = false → ends fault
  refl : ∀ x, leads x x
  trans : ∀ {x y z}, leads x y → leads y z → leads x z

/-- No interruption by the user, and any state. -/
def Course.calm (τ : Type) : Course τ where
  ends fault := fault.isInterrupt = false
  leads _ _ := True
  ordinary := id
  refl _ := trivial
  trans _ _ := trivial

namespace Act

variable {σ τ α β : Type}

/-- Whatever an action begins with, the part of the state that is seen keeps to a course. -/
def KeepsTo (c : Course τ) (seen : σ → τ) (p : Act σ α) : Prop :=
  ∀ s, Faulty c.ends (p.run s).1 ∧ c.leads (seen s) (seen (p.run s).2)

variable {c : Course τ} {seen : σ → τ} {p : Act σ α}

theorem keepsTo_pure (a : α) : (pure a : Act σ α).KeepsTo c seen := fun s => ⟨faulty_ok a, c.refl (seen s)⟩

theorem keepsTo_throw {fault : Fault} (ordinary : fault.isInterrupt = false) : (throw fault : Act σ α).KeepsTo c seen :=
  fun s => ⟨faulty_error (c.ordinary ordinary), c.refl (seen s)⟩

theorem keepsTo_get : (get : Act σ σ).KeepsTo c seen := fun s => ⟨faulty_ok s, c.refl (seen s)⟩

theorem keepsTo_modify {f : σ → σ} (leads : ∀ s, c.leads (seen s) (seen (f s))) :
    (modify f : Act σ PUnit).KeepsTo c seen :=
  fun s => ⟨faulty_ok _, leads s⟩

theorem keepsTo_ofExcept {r : Except Fault α} (ends : Faulty c.ends r) : (ofExcept r : Act σ α).KeepsTo c seen := by
  intro s
  rw [run_ofExcept]
  exact ⟨ends, c.refl (seen s)⟩

theorem KeepsTo.run_bind {f : α → Act σ β} {s : σ} (first : Faulty c.ends (p.run s).1 ∧ c.leads (seen s) (seen (p.run s).2))
    (rest : ∀ a, (p.run s).1 = .ok a →
      Faulty c.ends ((f a).run (p.run s).2).1 ∧ c.leads (seen (p.run s).2) (seen ((f a).run (p.run s).2).2)) :
    Faulty c.ends ((p >>= f).run s).1 ∧ c.leads (seen s) (seen ((p >>= f).run s).2) := by
  rw [Act.run_bind]
  rcases hp : p.run s with ⟨fault | a, s'⟩ <;> rw [hp] at first rest
  · exact ⟨faulty_error (first.1 fault rfl), first.2⟩
  · obtain ⟨ends, leads⟩ := rest a rfl
    exact ⟨ends, c.trans first.2 leads⟩

theorem KeepsTo.bind {f : α → Act σ β} (first : p.KeepsTo c seen) (rest : ∀ a, (f a).KeepsTo c seen) :
    KeepsTo c seen (p >>= f) :=
  fun s => KeepsTo.run_bind (first s) fun a _ => rest a _

/-- Setting a state that was got before. -/
theorem keepsTo_update {f : σ → Act σ β} (rest : ∀ s, Faulty c.ends ((f s).run s).1 ∧ c.leads (seen s) (seen ((f s).run s).2)) :
    KeepsTo c seen (get >>= f : Act σ β) := by
  intro s
  rw [Act.run_bind, Act.run_get]
  exact rest s

theorem KeepsTo.outcome_bind {f : Except Fault α → Act σ β} (first : p.KeepsTo c seen)
    (rest : ∀ r, Faulty c.ends r → (f r).KeepsTo c seen) : KeepsTo c seen (p.outcome >>= f) := by
  intro s
  refine KeepsTo.run_bind ⟨faulty_ok _, (first s).2⟩ fun r same => ?_
  cases same
  exact rest _ (first s).1 _

theorem KeepsTo.attempt_bind {f : Except Fault α → Act σ β} (first : p.KeepsTo c seen)
    (rest : ∀ r, Ordinary r → (f r).KeepsTo c seen) : KeepsTo c seen (p.attempt >>= f) := by
  intro s
  obtain ⟨ends, leads⟩ := first s
  have attempted := Act.run_attempt p s
  obtain ⟨ordinary, whole⟩ | ⟨fault, broken, stops⟩ := settled_cases (p.run s).1
  · rw [whole] at attempted
    refine KeepsTo.run_bind (by rw [attempted]; exact ⟨faulty_ok _, leads⟩) fun r same => ?_
    rw [attempted] at same ⊢
    cases same
    exact rest _ ordinary _
  · rw [stops] at attempted
    rw [broken] at ends
    refine KeepsTo.run_bind (by rw [attempted]; exact ⟨faulty_error (ends fault rfl), leads⟩) fun r same => ?_
    rw [attempted] at same
    cases same

theorem keepsTo_mapM {f : α → Act σ β} (h : ∀ a, (f a).KeepsTo c seen) : ∀ l : List α, (l.mapM f).KeepsTo c seen
  | [] => keepsTo_pure []
  | a :: l => by
    rw [List.mapM_cons]
    exact (h a).bind fun _ => (keepsTo_mapM h l).bind fun _ => keepsTo_pure _

theorem KeepsTo.zoom {ρ : Type} {view : σ → ρ} {put : ρ → σ → σ} {seen : ρ → τ} {p : Act ρ α} (h : p.KeepsTo c seen)
    (lawful : ∀ x s, view (put x s) = x) : (Act.zoom view put p).KeepsTo c fun s => seen (view s) := by
  intro s
  obtain ⟨ends, leads⟩ := h (view s)
  refine ⟨ends, ?_⟩
  rw [← lawful (p.run (view s)).2 s] at leads
  exact leads

theorem keepsTo_calm {p : Act τ α} : p.KeepsTo (.calm τ) id ↔ p.Ordinarily :=
  ⟨fun h s => (h s).1, fun h s => ⟨h s, trivial⟩⟩

end Act

/-! ## Sessions -/

namespace World

variable {ω α : Type} {c : Course ω}

theorem keepsTo_zoom {p : Act ω α} (h : p.KeepsTo c id) : (World.zoom p).KeepsTo c World.outer :=
  h.zoom fun _ _ => rfl

theorem keepsTo_modifySessions (f : SessionTable → SessionTable) : (modifySessions f).KeepsTo c World.outer :=
  Act.keepsTo_modify fun w => c.refl w.outer

end World

namespace SessionBackend

variable {ω : Type} {b : SessionBackend ω} {c : Course ω}

theorem keepsTo_liveSession (unit : UnitId) : (liveSession? (ω := ω) unit).KeepsTo c World.outer :=
  Act.keepsTo_get.bind fun _ => Act.keepsTo_pure _

theorem keepsTo_current (unit : UnitId) : (current (ω := ω) unit).KeepsTo c World.outer := by
  refine (keepsTo_liveSession unit).bind fun found => ?_
  cases found with
  | some session => exact Act.keepsTo_pure session
  | none => exact Act.keepsTo_throw rfl

theorem keepsTo_isActive (unit : UnitId) : (isActive (ω := ω) unit).KeepsTo c World.outer :=
  (keepsTo_liveSession unit).bind fun _ => Act.keepsTo_pure _

theorem keepsTo_isCurrent (session : SessionId) (unit : UnitId) : (isCurrent (ω := ω) session unit).KeepsTo c World.outer :=
  (keepsTo_liveSession unit).bind fun _ => Act.keepsTo_pure _

variable (logs : ∀ level message x, c.leads x (b.log level message x))
include logs

theorem keepsTo_note (level : LogLevel) (message : String) : (b.note level message).KeepsTo c World.outer :=
  Act.keepsTo_modify fun w => logs level message w.outer

theorem keepsTo_openSession (creates : ∀ session config, (b.create session config).KeepsTo c id)
    (config : Option SessionConfig) (unit : UnitId) : (b.openSession config unit).KeepsTo c World.outer := by
  refine (keepsTo_liveSession unit).bind fun found => ?_
  cases found with
  | some session => exact (keepsTo_note logs _ _).bind fun _ => Act.keepsTo_pure session
  | none =>
    refine (World.keepsTo_modifySessions _).bind fun _ => (keepsTo_note logs _ _).bind fun _ => ?_
    refine Act.keepsTo_get.bind fun w => (World.keepsTo_zoom (creates _ _)).attempt_bind fun r _ => ?_
    cases r with
    | error fault => exact (keepsTo_note logs _ _).bind fun _ => Act.keepsTo_throw rfl
    | ok _ => exact (World.keepsTo_modifySessions _).bind fun _ => Act.keepsTo_pure _

theorem keepsTo_close (closes : ∀ fault, b.closeFault = some fault → c.ends fault)
    (quits : ∀ session, (b.browse session .quit).KeepsTo c id) (unit : UnitId) : (b.close unit).KeepsTo c World.outer := by
  have tears := World.keepsTo_modifySessions (c := c) fun t => t.tearDown unit
  unfold close
  split
  · rename_i fault found
    exact fun w => ⟨faulty_error (closes fault found), c.refl w.outer⟩
  · refine (keepsTo_liveSession unit).bind fun found => ?_
    cases found with
    | none => exact tears
    | some session =>
      refine (World.keepsTo_zoom (quits session)).attempt_bind fun r _ => ?_
      cases r <;> exact (keepsTo_note logs _ _).bind fun _ => tears

theorem keepsTo_reset (closes : ∀ fault, b.closeFault = some fault → c.ends fault)
    (quits : ∀ session, (b.browse session .quit).KeepsTo c id) (unit : UnitId) : (b.reset unit).KeepsTo c World.outer :=
  (keepsTo_close logs closes quits unit).bind fun _ => World.keepsTo_modifySessions _

end SessionBackend

namespace Screenshots

variable {ω : Type} {b : SessionBackend ω} {c : Course ω} (logs : ∀ level message x, c.leads x (b.log level message x))
  (browses : ∀ session call, (b.browse session call).KeepsTo c id) (clock : ω → Timestamp) (directory : FilePath)
include logs browses

theorem keepsTo_onDemand (label : String) (unit : UnitId) :
    (onDemand b clock directory label unit).KeepsTo c World.outer := by
  refine (SessionBackend.keepsTo_current unit).attempt_bind fun found _ => ?_
  cases found with
  | error fault => exact (SessionBackend.keepsTo_note logs _ _).bind fun _ => Act.keepsTo_pure none
  | ok session =>
    refine Act.keepsTo_get.bind fun w => (World.keepsTo_zoom (browses session _)).attempt_bind fun saved _ => ?_
    cases saved <;> exact (SessionBackend.keepsTo_note logs _ _).bind fun _ => Act.keepsTo_pure _

theorem keepsTo_onFailure (testId testName : String) (unit : UnitId) :
    (onFailure b clock directory testId testName unit).KeepsTo c World.outer := by
  refine (SessionBackend.keepsTo_isActive unit).bind fun live => ?_
  cases live with
  | true => exact keepsTo_onDemand logs browses clock directory _ unit
  | false => exact (SessionBackend.keepsTo_note logs _ _).bind fun _ => Act.keepsTo_pure none

end Screenshots

/-! ## Surroundings -/

namespace Surroundings

variable {ω : Type} (s : Surroundings ω)

/-- Every part of the surroundings keeps to a course, but for the report. -/
structure OnCourse (c : Course ω) : Prop where
  log : ∀ level message x, c.leads x (s.log level message x)
  create : ∀ session config, (s.create session config).KeepsTo c id
  browse : ∀ session call, (s.browse session call).KeepsTo c id
  sleep : ∀ seconds, (s.sleep seconds).KeepsTo c id
  loadInput : ∀ testId, (s.source.loadInput testId).KeepsTo c id
  loadKeywords : ∀ testId, (s.source.loadKeywords testId).KeepsTo c id
  capture : ∀ onDemand onFailure, s.capture = .other onDemand onFailure →
    (∀ label unit, (onDemand label unit).KeepsTo c id) ∧
      ∀ testId testName reason unit, (onFailure testId testName reason unit).KeepsTo c id
  listeners : ∀ l ∈ s.listeners, ∀ news, (l.tell news).KeepsTo c id
  outside : ∀ action arguments, (s.outside action arguments).KeepsTo c id
  closes : ∀ fault, s.closeFault = some fault → c.ends fault

variable {s} {c : Course ω}

theorem keepsTo_readClock {α : Type} (clock : ω → α) : (readClock clock).KeepsTo c World.outer :=
  Act.keepsTo_get.bind fun _ => Act.keepsTo_pure _

theorem keepsTo_tellReport (h : ∀ tell, s.report = some tell → ∀ call, (tell call).KeepsTo c id) (call : ReportCall) :
    (s.tellReport call).KeepsTo c World.outer := by
  unfold tellReport
  split
  · rename_i tell found
    exact World.keepsTo_zoom (h tell found call)
  · exact Act.keepsTo_pure none

namespace OnCourse

variable (h : s.OnCourse c)
include h

theorem captureOnDemand (label : String) (unit : UnitId) : (s.captureOnDemand label unit).KeepsTo c World.outer := by
  unfold Surroundings.captureOnDemand
  split
  · exact Act.keepsTo_pure none
  · exact Screenshots.keepsTo_onDemand h.log h.browse s.localNow _ label unit
  · rename_i onDemand onFailure found
    exact World.keepsTo_zoom ((h.capture onDemand onFailure found).1 label unit)

theorem captureOnFailure (testId testName : String) (reason : Option String) (unit : UnitId) :
    (s.captureOnFailure testId testName reason unit).KeepsTo c World.outer := by
  unfold Surroundings.captureOnFailure
  split
  · exact Act.keepsTo_pure none
  · exact Screenshots.keepsTo_onFailure h.log h.browse s.localNow _ testId testName unit
  · rename_i onDemand onFailure found
    exact World.keepsTo_zoom ((h.capture onDemand onFailure found).2 testId testName reason unit)

theorem inform (listener : Nat) (news : SuiteNews) : (s.inform listener news).KeepsTo c World.outer := by
  unfold Surroundings.inform
  split
  · rename_i l found
    exact World.keepsTo_zoom (h.listeners l (List.mem_of_getElem? found) news)
  · exact Act.keepsTo_pure ()

/-- An operation keeps to the course, if reporting does where it is that. -/
theorem handle {op : SharedOp} (report : ∀ call, op = .report call → (s.tellReport call).KeepsTo c World.outer) :
    (s.handle op).KeepsTo c World.outer := by
  cases op with
  | log level message => exact SessionBackend.keepsTo_note h.log level message
  | now => exact keepsTo_readClock s.now
  | stopwatch => exact keepsTo_readClock s.stopwatch
  | sleep seconds => exact World.keepsTo_zoom (h.sleep seconds)
  | openSession config unit => exact SessionBackend.keepsTo_openSession h.log h.create config unit
  | closeSession unit => exact SessionBackend.keepsTo_close h.log h.closes (h.browse · .quit) unit
  | resetSession unit => exact SessionBackend.keepsTo_reset h.log h.closes (h.browse · .quit) unit
  | currentSession unit => exact SessionBackend.keepsTo_current unit
  | isActive unit => exact SessionBackend.keepsTo_isActive unit
  | isCurrent session unit => exact SessionBackend.keepsTo_isCurrent session unit
  | browse session call => exact World.keepsTo_zoom (h.browse session call)
  | report call => exact report call rfl
  | captureOnDemand label unit => exact h.captureOnDemand label unit
  | captureOnFailure testId testName reason unit => exact h.captureOnFailure testId testName reason unit
  | inform listener news => exact h.inform listener news
  | loadInput testId => exact World.keepsTo_zoom (h.loadInput testId)
  | loadKeywords testId => exact World.keepsTo_zoom (h.loadKeywords testId)
  | outside action arguments => exact World.keepsTo_zoom (h.outside action arguments)

theorem later (report : ∀ tell, s.report = some tell → ∀ call, (tell call).KeepsTo c id) {w w' : World ω}
    (later : s.Later w w') : c.leads w.outer w'.outer := by
  induction later with
  | refl => exact c.refl _
  | step op _ ih => exact c.trans ih (h.handle (fun call _ => keepsTo_tellReport report call) _).2

end OnCourse

theorem OnCourse.uninterrupted (h : s.OnCourse (.calm ω))
    (report : ∀ tell, s.report = some tell → ∀ call, (tell call).KeepsTo (.calm ω) id) (closes : s.closeFault = none) :
    s.Uninterrupted where
  create session config := Act.keepsTo_calm.1 (h.create session config)
  browse session call := Act.keepsTo_calm.1 (h.browse session call)
  sleep seconds := Act.keepsTo_calm.1 (h.sleep seconds)
  loadInput testId := Act.keepsTo_calm.1 (h.loadInput testId)
  loadKeywords testId := Act.keepsTo_calm.1 (h.loadKeywords testId)
  report tell found call := Act.keepsTo_calm.1 (report tell found call)
  capture onDemand onFailure found :=
    ⟨fun label unit => Act.keepsTo_calm.1 ((h.capture onDemand onFailure found).1 label unit),
      fun testId testName reason unit => Act.keepsTo_calm.1 ((h.capture onDemand onFailure found).2 testId testName reason unit)⟩
  listeners l member news := Act.keepsTo_calm.1 (h.listeners l member news)
  outside action arguments := Act.keepsTo_calm.1 (h.outside action arguments)
  closes := closes

end Surroundings

end KeywordSuite
