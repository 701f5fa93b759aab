import KeywordSuite.Proofs.Case.Conduct
import KeywordSuite.Proofs.Suite.History

/-!
# Test cases under way

What a test case that is under way on a unit has done to sessions so far, and what it may still do.
One operation leaves it under way; when nothing is left of its program it has come to an outcome,
its session is closed, and a failure was shown before.
-/

namespace KeywordSuite

variable {ω : Type}

/-- What a test case does by an operation that added events to the journal. -/
def operationEvents (op : SharedOp) (events : List SessionEvent) : List CaseEvent :=
  match op.shown? with
  | some (testId, testName) => .showed testId testName :: events.map .session
  | none => events.map .session

theorem session_operationEvents (op : SharedOp) (events : List SessionEvent) :
    (operationEvents op events).filterMap CaseEvent.session? = events := by
  have plain : (events.map CaseEvent.session).filterMap CaseEvent.session? = events := by
    rw [List.filterMap_map]
    exact List.filterMap_some
  unfold operationEvents
  split
  · exact plain
  · exact plain

/-! ## Showing a failure -/

/--
What becomes of the session that was open when a failure was shown, up to the session that is open
now: a screenshot of the failure is taken, and then the session is quit.
-/
inductive Shown (directory : FilePath) (testId testName : String) :
    Option SessionId → List SessionEvent → Option SessionId → Prop
  | idle : Shown directory testId testName none [] none
  | taken {n : SessionId} {time : Timestamp} : Shown directory testId testName (some n)
      [.called n (.saveScreenshot
        (Screenshots.path directory ("FAILURE_" ++ testId ++ "_" ++ testName) time).text)] (some n)
  | closed {n : SessionId} {time : Timestamp} : Shown directory testId testName (some n)
      [.called n (.saveScreenshot
        (Screenshots.path directory ("FAILURE_" ++ testId ++ "_" ++ testName) time).text),
        .called n .quit] none

/-- The deeds of a test case end with showing its failure, and with what that does to sessions. -/
def ShowsFailure (directory : FilePath) (failure : String × String) (deeds : List CaseEvent)
    (live : Option SessionId) : Prop :=
  ∃ before after, deeds = before ++ .showed failure.1 failure.2 :: after.map .session ∧
    Shown directory failure.1 failure.2 (openAfter before) after live

section

variable {directory : FilePath} {failure : String × String} {deeds : List CaseEvent} {u : UnitId}
  {t t' : SessionTable} {events : List SessionEvent}

theorem openAfter_append (deeds : List CaseEvent) (events : List SessionEvent) :
    openAfter (deeds ++ events.map .session) = events.foldl SessionEvent.leaves (openAfter deeds) := by
  unfold openAfter
  rw [List.foldl_append, foldl_session]

theorem openAfter_operationEvents (op : SharedOp) :
    openAfter (deeds ++ operationEvents op events) = events.foldl SessionEvent.leaves (openAfter deeds) := by
  unfold operationEvents
  split
  · rename_i testId testName _
    have same : openAfter (deeds ++ [.showed testId testName]) = openAfter deeds := by
      unfold openAfter
      rw [List.foldl_append]
      rfl
    rw [← same, ← openAfter_append, List.append_assoc]
    rfl
  · exact openAfter_append deeds events

theorem ShowsFailure.intro (shot : IsFailureShot directory failure.1 failure.2 (openAfter deeds) events) :
    ShowsFailure directory failure (deeds ++ .showed failure.1 failure.2 :: events.map .session)
      (events.foldl SessionEvent.leaves (openAfter deeds)) := by
  refine ⟨deeds, events, rfl, ?_⟩
  cases hl : openAfter deeds with
  | none =>
    rw [hl] at shot
    cases shot
    exact .idle
  | some n =>
    rw [hl] at shot
    obtain ⟨time, rfl⟩ := shot
    exact .taken

theorem ShowsFailure.quits (h : ShowsFailure directory failure deeds (t.live? u))
    (effect : SlotEffect u t t' events) (quits : OnlyQuits events) :
    ShowsFailure directory failure (deeds ++ events.map .session) (t'.live? u) := by
  rcases quits with rfl | ⟨n, rfl⟩
  · rw [List.map_nil, List.append_nil, effect.live_of_quiet]
    exact h
  · obtain ⟨before, after, rfl, shown⟩ := h
    refine ⟨before, after ++ [.called n .quit], by simp, ?_⟩
    cases effect with
    | used current keeps live count => exact absurd rfl keeps
    | closed current live count =>
      rw [live, if_pos rfl]
      rw [current] at shown
      generalize openAfter before = start at shown ⊢
      cases shown with
      | taken => exact .closed

end

/-! ## Test cases under way -/

/-- A test case that is under way on a unit, with what is live there, what it did, and what is left. -/
structure Underway (s : Surroundings ω) (u : UnitId) (live : Option SessionId) (deeds : List CaseEvent)
    (rest : Program SharedOp.Reply (Except Fault CaseResult)) (g : CaseStage) : Prop where
  keeps : rest.Keeps (caseProtocol u) g fun r h => h.Over r
  fits : g.grip.Fits live
  unended : ∀ r, .ended r ∉ deeds
  leaves : openAfter deeds = live
  shows : ∀ failure directory, g.shown = some failure → s.capture = .screenshots directory →
    ShowsFailure directory failure deeds live

/-- A test case that has come to an outcome. -/
structure Concluded (s : Surroundings ω) (deeds : List CaseEvent) (r : Except Fault CaseResult) : Prop where
  unended : ∀ r, .ended r ∉ deeds
  closed : openAfter deeds = none
  shows : ∀ result directory, r = .ok result → result.passed = false →
    s.capture = .screenshots directory → ShowsFailure directory (result.testId, result.testName) deeds none

section

variable {s : Surroundings ω} {u : UnitId} {deeds : List CaseEvent} {g : CaseStage}

theorem underway_begin {plan : SuitePlan} (hk : plan.registry.Courteous) (d : CaseDescriptor) :
    Underway s u none [.began d u] (Pool.program plan d u) ⟨.released, none⟩ where
  keeps := keeps_run d hk u
  fits := rfl
  unended r h := by
    cases List.mem_singleton.1 h
  leaves := rfl
  shows _ _ shown := by cases shown

theorem ended_not_mem_operationEvents (op : SharedOp) (events : List SessionEvent) (r : Except Fault CaseResult) :
    .ended r ∉ operationEvents op events := by
  unfold operationEvents
  split <;> simp

theorem isBusy_of_shown? {op : SharedOp} {failure : String × String} (h : op.shown? = some failure) :
    op.isBusy = true := by
  obtain ⟨reason, unit, rfl⟩ := eq_of_shown? h
  rfl

/-- One operation of a test case leaves it under way. -/
theorem Underway.act (hc : s.closeFault = none) (hq : ∀ n, (s.browse n .quit).Ordinarily)
    {w : World (Recorded ω)} {op : SharedOp}
    {resume : Except Fault op.Reply → Program SharedOp.Reply (Except Fault CaseResult)}
    (h : Underway s u (w.sessions.live? u) deeds (.call op resume) g) :
    ∃ events, Affects u w ((s.recorded.handle op).run w).2 events ∧
      ∃ g', Underway s u (((s.recorded.handle op).run w).2.sessions.live? u)
        (deeds ++ operationEvents op events) (resume ((s.recorded.handle op).run w).1) g' := by
  obtain ⟨stage, begins, rest⟩ := h.keeps
  obtain ⟨events, conduct⟩ := conduct_handle hc hq begins h.fits
  have effect := conduct.affects.2
  have grip : stage.grip = g.grip := by
    rcases begins.2.2.2 with rfl | ⟨_, _, rfl⟩ <;> rfl
  refine ⟨events, conduct.affects, _, ⟨rest _ conduct.answers, ?fits, ?unended, ?leaves, ?shows⟩⟩
  case fits =>
    show (stage.grip.after _ _).Fits _
    rw [grip]
    exact conduct.fits
  case unended =>
    intro r hr
    rcases List.mem_append.1 hr with old | new
    · exact h.unended r old
    · exact ended_not_mem_operationEvents op events r new
  case leaves => rw [openAfter_operationEvents, h.leaves, effect.leaves]
  case shows =>
    intro failure directory shown taken
    have shown : stage.shown = some failure := shown
    rcases begins.2.2.2 with rfl | ⟨failure', hop, rfl⟩
    · -- The failure was shown before, so that nothing busy may be begun any more.
      have idle : op.isBusy = false := by
        cases busy : op.isBusy with
        | false => rfl
        | true =>
          rw [begins.2.2.1 busy] at shown
          cases shown
      have silent : op.shown? = none := by
        cases hop : op.shown? with
        | none => rfl
        | some failure' =>
          rw [isBusy_of_shown? hop] at idle
          cases idle
      have plain : operationEvents op events = events.map .session := by
        unfold operationEvents
        rw [silent]
      rw [plain]
      exact (h.shows failure directory shown taken).quits effect (conduct.idle idle)
    · cases shown
      have marked : operationEvents op events = .showed failure.1 failure.2 :: events.map .session := by
        unfold operationEvents
        rw [hop]
      have shot := conduct.shows failure directory hop taken
      rw [← h.leaves] at shot
      rw [marked, effect.leaves, ← h.leaves]
      exact ShowsFailure.intro shot

theorem Underway.live_eq_none {live : Option SessionId} {r : Except Fault CaseResult}
    (h : Underway s u live deeds (.done r) g) : live = none := by
  have ending : g.Over r := h.keeps
  have fits := h.fits
  rw [ending.1] at fits
  exact fits

theorem Underway.concluded {live : Option SessionId} {r : Except Fault CaseResult}
    (h : Underway s u live deeds (.done r) g) : Concluded s deeds r where
  unended := h.unended
  closed := h.leaves.trans h.live_eq_none
  shows := by
    intro result directory hr failed taken
    have ending : g.Over r := h.keeps
    have shown := h.shows _ directory (ending.2 result hr failed) taken
    rw [h.live_eq_none] at shown
    exact shown

end

end KeywordSuite
