import KeywordSuite.Proofs.Case.Manners

/-!
# What keeping to the protocol does to sessions

An operation that a test case begins in keeping with the protocol has an effect on the sessions of
its own unit only, and is answered as the protocol expects. What the test case knows stays true.
-/

namespace KeywordSuite

/-- What is known of a live session is true of it. -/
def Grip.Fits (live : Option SessionId) : Grip → Prop
  | .unknown => True
  | .holds n => live = some n
  | .released => live = none

/-- Nothing happens to a session but its end. -/
def OnlyQuits (events : List SessionEvent) : Prop := events = [] ∨ ∃ n, events = [.called n .quit]

variable {ω : Type}

/-- What an operation does from one world to another, on the unit of a test case with a grip. -/
structure Conduct (s : Surroundings ω) (u : UnitId) (g : Grip) (op : SharedOp)
    (reply : Except Fault op.Reply) (w w' : World (Recorded ω)) (events : List SessionEvent) : Prop where
  affects : Affects u w w' events
  answers : op.neverFails = true → ∃ a, reply = .ok a
  fits : (g.after op reply).Fits (w'.sessions.live? u)
  idle : op.isBusy = false → OnlyQuits events
  shows : ∀ failure directory, op.shown? = some failure → s.capture = .screenshots directory →
    IsFailureShot directory failure.1 failure.2 (w.sessions.live? u) events

variable {s : Surroundings ω} {u : UnitId} {g : Grip} {w : World (Recorded ω)}

theorem SlotEffect.live_of_quiet {t t' : SessionTable} (h : SlotEffect u t t' []) (v : UnitId) :
    t'.live? v = t.live? v := by
  cases h with
  | quiet live count => exact live v

theorem SlotEffect.onlyQuits {t t' : SessionTable} {events : List SessionEvent}
    (h : SlotEffect u t t' events) (gone : t'.live? u = none) : OnlyQuits events := by
  cases h with
  | quiet live count => exact .inl rfl
  | opened idle live count =>
    have opened := live u
    rw [if_pos rfl, gone] at opened
    cases opened
  | used current keeps live count =>
    have kept := live u
    rw [gone, current] at kept
    cases kept
  | closed current live count => exact .inr ⟨_, rfl⟩

theorem eq_of_shown? {op : SharedOp} {failure : String × String} (h : op.shown? = some failure) :
    ∃ reason unit, op = .captureOnFailure failure.1 failure.2 reason unit := by
  cases op with
  | captureOnFailure testId testName reason unit =>
    cases h
    exact ⟨reason, unit, rfl⟩
  | _ => cases h

theorem conduct_lookup {op : SharedOp} (look : op.isBusy = false) {reply : Except Fault op.Reply}
    (answers : op.neverFails = true → ∃ a, reply = .ok a)
    (learns : (g.after op reply).Fits (w.sessions.live? u)) :
    Conduct s u g op reply w w [] where
  affects := affects_nothing rfl rfl
  answers := answers
  fits := learns
  idle _ := .inl rfl
  shows := by
    intro failure directory hop
    obtain ⟨reason, unit, rfl⟩ := eq_of_shown? hop
    cases look

section

variable (fits : g.Fits (w.sessions.live? u))
include fits

theorem conduct_apart {op : SharedOp} (h : op.isApart = true) :
    Conduct s u g op ((s.recorded.handle op).run w).1 w ((s.recorded.handle op).run w).2 [] where
  affects := affects_apart h
  answers := by
    intro never
    cases op with
    | log | now | stopwatch => exact ⟨_, rfl⟩
    | closeSession | resetSession | isActive | isCurrent => cases h
    | _ => cases never
  fits := by
    rw [after_apart h, (affects_apart (u := u) h).2.live_of_quiet]
    exact fits
  idle _ := .inl rfl
  shows := by
    intro failure directory hop
    obtain ⟨reason, unit, rfl⟩ := eq_of_shown? hop
    cases h

theorem conduct_currentSession :
    Conduct s u g (.currentSession u) ((SessionBackend.current u).run w).1 w
      ((SessionBackend.current u).run w).2 [] := by
  simp only [SessionBackend.current, Act.run_bind, SessionBackend.run_liveSession]
  cases hl : w.sessions.live? u with
  | some n => exact conduct_lookup rfl (fun never => by cases never) hl
  | none => exact conduct_lookup rfl (fun never => by cases never) fits

theorem conduct_isActive :
    Conduct s u g (.isActive u) ((SessionBackend.isActive u).run w).1 w w [] :=
  conduct_lookup rfl (fun _ => ⟨_, rfl⟩) fits

theorem conduct_isCurrent (n : SessionId) :
    Conduct s u g (.isCurrent n u) ((SessionBackend.isCurrent n u).run w).1 w w [] := by
  have answer : ((SessionBackend.isCurrent n u).run w).1 = .ok (w.sessions.live? u == some n) := rfl
  rw [answer]
  apply conduct_lookup rfl (fun _ => ⟨_, rfl⟩)
  cases hl : (w.sessions.live? u == some n) with
  | false => exact fits
  | true => exact eq_of_beq hl

theorem conduct_openSession (config : Option SessionConfig) :
    ∃ events, Conduct s u g (.openSession config u) ((s.recorded.openSession config u).run w).1 w
      ((s.recorded.openSession config u).run w).2 events := by
  obtain ⟨events, affects, opened⟩ := affects_openSession (s := s) (u := u) (w := w) config
  refine ⟨events, affects, (fun never => by cases never), ?_, (fun idle => by cases idle),
    (fun _ _ shows => by cases shows)⟩
  cases hr : ((s.recorded.openSession config u).run w).1 with
  | ok n =>
    rw [hr] at opened
    exact opened
  | error fault =>
    rw [hr] at opened
    subst opened
    show g.Fits _
    rw [affects.2.live_of_quiet]
    exact fits

theorem conduct_captureOnDemand (label : String) :
    ∃ events, Conduct s u g (.captureOnDemand label u) ((s.recorded.captureOnDemand label u).run w).1 w
      ((s.recorded.captureOnDemand label u).run w).2 events := by
  obtain ⟨events, affects, same⟩ := affects_captureOnDemand (s := s) (u := u) (w := w) label
  refine ⟨events, affects, (fun never => by cases never), ?_, (fun idle => by cases idle),
    (fun _ _ shows => by cases shows)⟩
  show g.Fits _
  rw [same]
  exact fits

theorem conduct_captureOnFailure (testId testName : String) (reason : Option String) :
    ∃ events, Conduct s u g (.captureOnFailure testId testName reason u)
      ((s.recorded.captureOnFailure testId testName reason u).run w).1 w
      ((s.recorded.captureOnFailure testId testName reason u).run w).2 events := by
  obtain ⟨events, affects, same, shot⟩ :=
    affects_captureOnFailure (s := s) (u := u) (w := w) testId testName reason
  refine ⟨events, affects, (fun never => by cases never), ?_, (fun idle => by cases idle), ?_⟩
  · show g.Fits _
    rw [same]
    exact fits
  · intro failure directory shows
    cases shows
    exact shot directory

end

/-- A session is driven while it is held, so it is the live one. -/
theorem conduct_browse {n : SessionId} {call : SessionCall} (fits : (Grip.holds n).Fits (w.sessions.live? u))
    (h : call ≠ .quit) :
    Conduct s u (.holds n) (.browse n call) ((s.recorded.handle (.browse n call)).run w).1 w
      ((s.recorded.handle (.browse n call)).run w).2 [.called n call] where
  affects := ⟨rfl, .used fits h (fun _ => rfl) rfl⟩
  answers never := by cases never
  fits := fits
  idle idle := by cases idle
  shows _ _ shows := by cases shows

section

variable (hc : s.closeFault = none) (hq : ∀ n, (s.browse n .quit).Ordinarily)
include hc hq

theorem conduct_closeSession :
    ∃ events, Conduct s u g (.closeSession u) ((s.recorded.close u).run w).1 w
      ((s.recorded.close u).run w).2 events := by
  obtain ⟨ok, gone, events, affects⟩ := affects_close (u := u) (w := w) hc hq
  exact ⟨events, affects, fun _ => ⟨(), ok⟩, gone, fun _ => affects.2.onlyQuits gone,
    fun _ _ shows => by cases shows⟩

theorem conduct_resetSession :
    ∃ events, Conduct s u g (.resetSession u) ((s.recorded.reset u).run w).1 w
      ((s.recorded.reset u).run w).2 events := by
  obtain ⟨ok, gone, events, affects⟩ := affects_reset (u := u) (w := w) hc hq
  exact ⟨events, affects, fun _ => ⟨(), ok⟩, gone, fun _ => affects.2.onlyQuits gone,
    fun _ _ shows => by cases shows⟩

/-- Whatever operation the protocol lets a test case begin, it does no more than the protocol says. -/
theorem conduct_handle {stage after : CaseStage} {op : SharedOp} (h : (caseProtocol u).begins stage op after)
    (fits : stage.grip.Fits (w.sessions.live? u)) :
    ∃ events, Conduct s u stage.grip op ((s.recorded.handle op).run w).1 w
      ((s.recorded.handle op).run w).2 events := by
  obtain ⟨own, drives, -, -⟩ := h
  -- operations on a session go to the own unit or to the session held; the others touch none
  cases op with
  | openSession config unit =>
    cases own unit rfl
    exact conduct_openSession fits config
  | closeSession unit =>
    cases own unit rfl
    exact conduct_closeSession hc hq
  | resetSession unit =>
    cases own unit rfl
    exact conduct_resetSession hc hq
  | currentSession unit =>
    cases own unit rfl
    exact ⟨[], conduct_currentSession fits⟩
  | isActive unit =>
    cases own unit rfl
    exact ⟨[], conduct_isActive fits⟩
  | isCurrent session unit =>
    cases own unit rfl
    exact ⟨[], conduct_isCurrent fits session⟩
  | browse session call =>
    obtain ⟨held, keeps⟩ := drives session call rfl
    rw [held] at fits ⊢
    exact ⟨_, conduct_browse fits keeps⟩
  | captureOnDemand label unit =>
    cases own unit rfl
    exact conduct_captureOnDemand fits label
  | captureOnFailure testId testName reason unit =>
    cases own unit rfl
    exact conduct_captureOnFailure fits testId testName reason
  | _ => exact ⟨[], conduct_apart fits rfl⟩

end

end KeywordSuite
