import KeywordSuite.Proofs.Surroundings

/-!
# The journal of sessions

Surroundings that record every session they create and every call on a session. An operation on a
unit adds at most one entry, and which one says what became of the unit's live session.
-/

namespace KeywordSuite

inductive SessionEvent
  | created (session : SessionId)
  | called (session : SessionId) (call : SessionCall)
  deriving DecidableEq

def SessionEvent.session : SessionEvent → SessionId
  | .created session | .called session _ => session

structure Recorded (ω : Type) where
  outer : ω
  journal : List SessionEvent

namespace Recorded

variable {ω α : Type}

def lift (act : Act ω α) : Act (Recorded ω) α :=
  Act.zoom Recorded.outer (fun outer x => { x with outer }) act

/-- Acts, and notes an event that depends on the outcome. -/
def noting (events : Except Fault α → List SessionEvent) (act : Act ω α) : Act (Recorded ω) α :=
  Act.make fun x =>
    let (r, outer) := act.run x.outer
    (r, ⟨outer, x.journal ++ events r⟩)

end Recorded

/-- The events of creating a session: none if that failed. -/
def creationEvents (session : SessionId) : Except Fault Unit → List SessionEvent
  | .ok () => [.created session]
  | .error _ => []

/-- The events of ending a live session, if there is one. -/
def quitEvents : Option SessionId → List SessionEvent
  | some session => [.called session .quit]
  | none => []

namespace SessionBackend

variable {ω : Type} (b : SessionBackend ω)

/-- The same backend, with a journal of its sessions. -/
def recorded : SessionBackend (Recorded ω) where
  log level message x := { x with outer := b.log level message x.outer }
  create session config := Recorded.noting (creationEvents session) (b.create session config)
  browse session call := Recorded.noting (fun _ => [.called session call]) (b.browse session call)
  defaultConfig := b.defaultConfig
  closeFault := b.closeFault

theorem opening_recorded (config : SessionConfig) (n : SessionId) (x : Recorded ω) :
    b.recorded.opening config n x = ((b.opening config n x.outer).1,
      ⟨(b.opening config n x.outer).2, x.journal ++ creationEvents n (b.opening config n x.outer).1⟩) := rfl

variable {b} (hc : b.closeFault = none) (hq : ∀ n, (b.browse n .quit).Ordinarily) (u : UnitId)
  (w : World (Recorded ω))
include hc hq

theorem close_recorded : ∃ x, (b.recorded.close u).run w =
    (.ok (), ⟨w.sessions.tearDown u, ⟨x, w.outer.journal ++ quitEvents (w.sessions.live? u)⟩⟩) := by
  have closes : b.recorded.closeFault = none := hc
  cases hl : w.sessions.live? u with
  | none =>
    rw [close_idle closes hl]
    exact ⟨w.outer.outer, by rw [quitEvents, List.append_nil]⟩
  | some n =>
    have quits : Ordinary ((b.recorded.browse n .quit).run w.outer).1 := hq n w.outer.outer
    obtain ⟨level, message, run_eq⟩ := close_live closes hl quits
    rw [run_eq]
    exact ⟨_, rfl⟩

theorem reset_recorded : ∃ x, (b.recorded.reset u).run w = (.ok (), ⟨(w.sessions.tearDown u).erase u,
    ⟨x, w.outer.journal ++ quitEvents (w.sessions.live? u)⟩⟩) := by
  obtain ⟨x, run_eq⟩ := close_recorded hc hq u w
  exact ⟨x, reset_of_close run_eq⟩

end SessionBackend

namespace CaptureDevice

def recorded {ω : Type} : CaptureDevice ω → CaptureDevice (Recorded ω)
  | .absent => .absent
  | .screenshots directory => .screenshots directory
  | .other onDemand onFailure => .other (fun label unit => Recorded.lift (onDemand label unit))
      fun testId testName reason unit => Recorded.lift (onFailure testId testName reason unit)

end CaptureDevice

namespace Surroundings

variable {ω : Type}

/-- The same surroundings, with a journal of their sessions. -/
def recorded (s : Surroundings ω) : Surroundings (Recorded ω) where
  log level message x := { x with outer := s.log level message x.outer }
  create session config := Recorded.noting (creationEvents session) (s.create session config)
  browse session call := Recorded.noting (fun _ => [.called session call]) (s.browse session call)
  defaultConfig := s.defaultConfig
  closeFault := s.closeFault
  now x := s.now x.outer
  localNow x := s.localNow x.outer
  stopwatch x := s.stopwatch x.outer
  sleep seconds := Recorded.lift (s.sleep seconds)
  source := ⟨Recorded.lift s.source.listActive, fun testId => Recorded.lift (s.source.loadInput testId),
    fun testId => Recorded.lift (s.source.loadKeywords testId)⟩
  report := s.report.map fun tell call => Recorded.lift (tell call)
  capture := s.capture.recorded
  listeners := s.listeners.map fun l => ⟨l.name, fun news => Recorded.lift (l.tell news)⟩
  outside action arguments := Recorded.lift (s.outside action arguments)

theorem toSessionBackend_recorded (s : Surroundings ω) :
    s.recorded.toSessionBackend = s.toSessionBackend.recorded := rfl

end Surroundings

/-! ## What becomes of the live sessions -/

/-- The events of an operation on a unit, and what it makes of the live sessions. -/
inductive SlotEffect (u : UnitId) (t t' : SessionTable) : List SessionEvent → Prop
  | quiet (live : ∀ v, t'.live? v = t.live? v) (count : t'.created = t.created) : SlotEffect u t t' []
  | opened (idle : t.live? u = none) (live : ∀ v, t'.live? v = if v = u then some t.next else t.live? v)
      (count : t'.created = t.next) : SlotEffect u t t' [.created t.next]
  | used {n : SessionId} {call : SessionCall} (current : t.live? u = some n) (keeps : call ≠ .quit)
      (live : ∀ v, t'.live? v = t.live? v) (count : t'.created = t.created) :
      SlotEffect u t t' [.called n call]
  | closed {n : SessionId} (current : t.live? u = some n)
      (live : ∀ v, t'.live? v = if v = u then none else t.live? v) (count : t'.created = t.created) :
      SlotEffect u t t' [.called n .quit]

section

variable {ω : Type}

/-- From one world to another, an operation on a unit adds events and has their effect. -/
def Affects (u : UnitId) (w w' : World (Recorded ω)) (events : List SessionEvent) : Prop :=
  w'.outer.journal = w.outer.journal ++ events ∧ SlotEffect u w.sessions w'.sessions events

theorem affects_nothing {u : UnitId} {w w' : World (Recorded ω)} (sessions : w'.sessions = w.sessions)
    (journal : w'.outer.journal = w.outer.journal) : Affects u w w' [] := by
  refine ⟨?_, .quiet ?_ ?_⟩
  · rw [journal, List.append_nil]
  · intro v; rw [sessions]
  · rw [sessions]

variable {s : Surroundings ω} {u : UnitId} {w : World (Recorded ω)}

/-! ## Opening and closing -/

/-- The live session of a unit, if there is one, is quit, and the unit has none after that. -/
theorem slotEffect_quit {t t' : SessionTable} (live : ∀ v, t'.live? v = if v = u then none else t.live? v)
    (count : t'.created = t.created) : SlotEffect u t t' (quitEvents (t.live? u)) := by
  cases hl : t.live? u with
  | some n => exact .closed hl live count
  | none =>
    refine .quiet (fun v => ?_) count
    rw [live]
    split
    · rename_i hv; rw [hv, hl]
    · rfl

theorem affects_openSession (config : Option SessionConfig) :
    ∃ events, Affects u w ((s.recorded.openSession config u).run w).2 events ∧
      match ((s.recorded.openSession config u).run w).1 with
      | .ok n => ((s.recorded.openSession config u).run w).2.sessions.live? u = some n
      | .error _ => events = [] := by
  rw [s.toSessionBackend_recorded]
  cases hl : w.sessions.live? u with
  | some n =>
    obtain ⟨message, run_eq⟩ := s.toSessionBackend.recorded.openSession_live u w config hl
    rw [run_eq]
    exact ⟨[], affects_nothing rfl rfl, hl⟩
  | none =>
    have run_eq := s.toSessionBackend.recorded.openSession_idle u w config hl
    rw [SessionBackend.opening_recorded] at run_eq
    rw [run_eq]
    cases s.toSessionBackend.opening (config.getD s.toSessionBackend.recorded.defaultConfig) w.sessions.next
        w.outer.outer with
    | mk r x =>
      cases r with
      | ok _ =>
        refine ⟨[.created w.sessions.next], ⟨rfl, .opened hl (w.sessions.live?_add u) rfl⟩, ?_⟩
        show (w.sessions.add u).live? u = some w.sessions.next
        rw [SessionTable.live?_add, if_pos rfl]
      | error fault =>
        have quiet : SlotEffect u w.sessions (w.sessions.discard u) [] :=
          .quiet (fun v => w.sessions.live?_discard_idle u v hl) (w.sessions.created_discard u)
        cases hf : fault.isInterrupt <;> dsimp only <;> rw [hf] <;> exact ⟨[], ⟨rfl, quiet⟩, rfl⟩

/-! ## Screenshots -/

theorem affects_onDemand (clock : Recorded ω → Timestamp) (directory : FilePath) (label : String) :
    ∃ time, Affects u w
      ((Screenshots.onDemand s.recorded.toSessionBackend clock directory label u).run w).2
      (match w.sessions.live? u with
        | some n => [.called n (.saveScreenshot (Screenshots.path directory label time).text)]
        | none => []) ∧
      ((Screenshots.onDemand s.recorded.toSessionBackend clock directory label u).run w).2.sessions =
        w.sessions := by
  refine ⟨clock w.outer, ?_⟩
  cases hl : w.sessions.live? u with
  | none =>
    obtain ⟨message, hrun⟩ :=
      Screenshots.onDemand_idle s.recorded.toSessionBackend clock directory label hl
    rw [hrun]
    exact ⟨affects_nothing rfl rfl, rfl⟩
  | some n =>
    obtain ⟨r, y, hrun, left, -⟩ :=
      Screenshots.onDemand_live s.recorded.toSessionBackend clock directory label hl
    rw [hrun]
    refine ⟨⟨?_, .used hl (by simp) (fun _ => rfl) rfl⟩, rfl⟩
    rcases left with rfl | ⟨level, message, rfl⟩
    · rfl
    · rfl

theorem affects_onFailure (clock : Recorded ω → Timestamp) (directory : FilePath) (testId testName : String) :
    ∃ time, Affects u w
      ((Screenshots.onFailure s.recorded.toSessionBackend clock directory testId testName u).run w).2
      (match w.sessions.live? u with
        | some n => [.called n (.saveScreenshot
            (Screenshots.path directory ("FAILURE_" ++ testId ++ "_" ++ testName) time).text)]
        | none => []) ∧
      ((Screenshots.onFailure s.recorded.toSessionBackend clock directory testId testName u).run
        w).2.sessions = w.sessions := by
  cases hl : w.sessions.live? u with
  | none =>
    obtain ⟨message, hrun⟩ :=
      Screenshots.onFailure_idle s.recorded.toSessionBackend clock directory testId testName hl
    rw [hrun]
    exact ⟨clock w.outer, affects_nothing rfl rfl, rfl⟩
  | some n =>
    rw [Screenshots.onFailure_live s.recorded.toSessionBackend clock directory testId testName hl]
    have shown := affects_onDemand (s := s) (u := u) (w := w) clock directory
      ("FAILURE_" ++ testId ++ "_" ++ testName)
    rw [hl] at shown
    exact shown

theorem affects_captureOnDemand (label : String) :
    ∃ events, Affects u w ((s.recorded.captureOnDemand label u).run w).2 events ∧
      ((s.recorded.captureOnDemand label u).run w).2.sessions = w.sessions := by
  have device : s.recorded.capture = s.capture.recorded := rfl
  unfold Surroundings.captureOnDemand
  rw [device]
  cases s.capture with
  | absent => exact ⟨[], affects_nothing rfl rfl, rfl⟩
  | screenshots directory =>
    obtain ⟨time, shown⟩ := affects_onDemand (s := s) (u := u) (w := w) _ directory label
    exact ⟨_, shown⟩
  | other onDemand onFailure => exact ⟨[], affects_nothing rfl rfl, rfl⟩

/-- The screenshots of a failure: one of the live session, if there is one. -/
def IsFailureShot (directory : FilePath) (testId testName : String) (live : Option SessionId)
    (events : List SessionEvent) : Prop :=
  match live with
  | some n => ∃ time, events = [.called n (.saveScreenshot
      (Screenshots.path directory ("FAILURE_" ++ testId ++ "_" ++ testName) time).text)]
  | none => events = []

theorem affects_captureOnFailure (testId testName : String) (reason : Option String) :
    ∃ events, Affects u w ((s.recorded.captureOnFailure testId testName reason u).run w).2 events ∧
      ((s.recorded.captureOnFailure testId testName reason u).run w).2.sessions = w.sessions ∧
      ∀ directory, s.capture = .screenshots directory →
        IsFailureShot directory testId testName (w.sessions.live? u) events := by
  have device : s.recorded.capture = s.capture.recorded := rfl
  unfold Surroundings.captureOnFailure
  rw [device]
  cases s.capture with
  | absent => exact ⟨[], affects_nothing rfl rfl, rfl, fun _ h => by cases h⟩
  | screenshots directory =>
    obtain ⟨time, shown, same⟩ := affects_onFailure (s := s) (u := u) (w := w) s.recorded.localNow directory
      testId testName
    refine ⟨_, shown, same, ?_⟩
    intro _ h
    cases h
    unfold IsFailureShot
    cases w.sessions.live? u with
    | some n => exact ⟨time, rfl⟩
    | none => rfl
  | other onDemand onFailure => exact ⟨[], affects_nothing rfl rfl, rfl, fun _ h => by cases h⟩

/-! ## Everything else -/

/-- Operations that have to do with no session. -/
def SharedOp.isApart : SharedOp → Bool
  | .log .. | .now | .stopwatch | .sleep _ | .report _ | .inform .. | .loadInput _ | .loadKeywords _
  | .outside .. => true
  | _ => false

/-- Two worlds do not differ in their sessions. -/
def SameSessions (w w' : World (Recorded ω)) : Prop :=
  w'.sessions = w.sessions ∧ w'.outer.journal = w.outer.journal

theorem sameSessions_tellReport (call : ReportCall) :
    SameSessions w ((s.recorded.tellReport call).run w).2 := by
  have device : s.recorded.report = s.report.map fun tell call => Recorded.lift (tell call) := rfl
  unfold Surroundings.tellReport
  rw [device]
  cases s.report <;> exact ⟨rfl, rfl⟩

theorem sameSessions_inform (listener : Nat) (news : SuiteNews) :
    SameSessions w ((s.recorded.inform listener news).run w).2 := by
  have device : s.recorded.listeners =
      s.listeners.map fun l => ⟨l.name, fun news => Recorded.lift (l.tell news)⟩ := rfl
  unfold Surroundings.inform
  rw [device, List.getElem?_map]
  cases s.listeners[listener]? <;> exact ⟨rfl, rfl⟩

theorem sameSessions_apart {op : SharedOp} (h : op.isApart = true) :
    SameSessions w ((s.recorded.handle op).run w).2 := by
  cases op with
  | report call => exact sameSessions_tellReport call
  | inform listener news => exact sameSessions_inform listener news
  | log | now | stopwatch | sleep | loadInput | loadKeywords | outside => exact ⟨rfl, rfl⟩
  | _ => cases h

theorem affects_apart {op : SharedOp} (h : op.isApart = true) :
    Affects u w ((s.recorded.handle op).run w).2 [] :=
  affects_nothing (sameSessions_apart h).1 (sameSessions_apart h).2

variable (hc : s.closeFault = none) (hq : ∀ n, (s.browse n .quit).Ordinarily)
include hc hq

theorem affects_close : ((s.recorded.close u).run w).1 = .ok () ∧
    ((s.recorded.close u).run w).2.sessions.live? u = none ∧
    ∃ events, Affects u w ((s.recorded.close u).run w).2 events := by
  rw [s.toSessionBackend_recorded]
  have torn := w.sessions.live?_tearDown u
  have count := w.sessions.created_tearDown u
  obtain ⟨x, run_eq⟩ := SessionBackend.close_recorded hc hq u w
  rw [run_eq]
  refine ⟨rfl, by rw [torn, if_pos rfl], _, rfl, ?_⟩
  exact slotEffect_quit torn count

theorem affects_reset : ((s.recorded.reset u).run w).1 = .ok () ∧
    ((s.recorded.reset u).run w).2.sessions.live? u = none ∧
    ∃ events, Affects u w ((s.recorded.reset u).run w).2 events := by
  rw [s.toSessionBackend_recorded]
  have gone := w.sessions.live?_reset u
  obtain ⟨x, run_eq⟩ := SessionBackend.reset_recorded hc hq u w
  rw [run_eq]
  refine ⟨rfl, by rw [gone, if_pos rfl], _, rfl, ?_⟩
  exact slotEffect_quit gone (w.sessions.created_tearDown u)

end

end KeywordSuite
