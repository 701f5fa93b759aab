import KeywordSuite.Proofs.Case.Watch
import KeywordSuite.Proofs.Suite.Crew
import KeywordSuite.Proofs.Suite.Outcome

/-!
# Suites that complete or are interrupted

In surroundings whose stopwatch never goes back, every test case of a suite comes to a result of its own,
whatever fails on the way and whatever the schedule. If the user interrupts a suite that runs its test cases
one after another, the suite is interrupted.
-/

namespace KeywordSuite

variable {ω : Type} {s : Surroundings ω}

namespace Surroundings

/-! ## Surroundings that may be interrupted -/

variable (s) in
/-- The user may interrupt what drives a session, other than quitting it, and what waits, but nothing else. -/
structure Guarded : Prop where
  quits : ∀ session, (s.browse session .quit).Ordinarily
  loadInput : ∀ testId, (s.source.loadInput testId).Ordinarily
  loadKeywords : ∀ testId, (s.source.loadKeywords testId).Ordinarily
  report : ∀ tell, s.report = some tell → ∀ call, (tell call).Ordinarily
  listeners : ∀ l ∈ s.listeners, ∀ news, (l.tell news).Ordinarily
  closes : s.closeFault = none

theorem Uninterrupted.guarded (h : s.Uninterrupted) : s.Guarded where
  quits session := h.browse session .quit
  loadInput := h.loadInput
  loadKeywords := h.loadKeywords
  report := h.report
  listeners := h.listeners
  closes := h.closes

variable (s) in
/-- From a world on, the stopwatch never goes back, and all that it measures lasts. -/
def Timed (start : World ω) : Prop :=
  ∀ w w', s.Later start w → s.Later w w' → IsSpan (s.stopwatch w'.outer - s.stopwatch w.outer)

theorem Guarded.neverFails (h : s.Guarded) {op : SharedOp} (safe : op.neverFails = true) (w : World ω) :
    ∃ a, ((s.handle op).run w).1 = .ok a := by
  cases op with
  | log | now | stopwatch | isActive | isCurrent => exact ⟨_, rfl⟩
  | closeSession unit =>
    obtain ⟨x, closed⟩ := SessionBackend.close_ok h.closes h.quits unit w
    exact ⟨(), congrArg Prod.fst closed⟩
  | resetSession unit =>
    obtain ⟨x, closed⟩ := SessionBackend.close_ok h.closes h.quits unit w
    exact ⟨(), congrArg Prod.fst (SessionBackend.reset_of_close closed)⟩
  | _ => cases safe

theorem Guarded.ordinary (h : s.Guarded) {op : SharedOp} (calm : op.isInterruptible = false) (w : World ω) :
    Ordinary ((s.handle op).run w).1 := by
  cases op with
  | log | now | stopwatch | isActive | isCurrent => exact ordinary_ok _
  | closeSession unit => exact SessionBackend.ordinarily_close h.closes h.quits unit w
  | resetSession unit => exact SessionBackend.ordinarily_reset h.closes h.quits unit w
  | currentSession unit => exact SessionBackend.ordinarily_current unit w
  | report call => exact ordinarily_tellReport h.report call w
  | inform listener news => exact ordinarily_inform h.listeners listener news w
  | loadInput testId => exact (h.loadInput testId).zoom w
  | loadKeywords testId => exact (h.loadKeywords testId).zoom w
  | _ => cases calm

end Surroundings

/-! ## Test cases that are watched -/

section

variable {start w w' : World ω} {g : Watch}

/-- What was read off the stopwatch so far was shown in worlds that came before. -/
structure Watch.Tracks (s : Surroundings ω) (start : World ω) (g : Watch) (w : World ω) : Prop where
  later : s.Later start w
  shown : ∀ t ∈ g.readings, ∃ w₀, t = s.stopwatch w₀.outer ∧ s.Later start w₀ ∧ s.Later w₀ w

theorem Watch.Tracks.frame (h : g.Tracks s start w) (later : s.Later w w') : g.Tracks s start w' where
  later := h.later.trans later
  shown t read := by
    obtain ⟨w₀, same, before, after⟩ := h.shown t read
    exact ⟨w₀, same, before, after.trans later⟩

theorem Watch.Tracks.first (later : s.Later start w) : (Watch.mk [] false).Tracks s start w :=
  ⟨later, fun t read => by cases read⟩

/-- Whatever the surroundings answer, the protocol foresees it. -/
theorem Watch.Tracks.answers (h : g.Tracks s start w) (hs : s.Guarded) (timed : s.Timed start) (op : SharedOp) :
    watching.answers g op ((s.handle op).run w).1 := by
  refine ⟨fun safe => hs.neverFails safe w, fun calm => hs.ordinary calm w, fun t read t₀ before => ?_⟩
  cases op with
  | stopwatch =>
    cases read
    obtain ⟨w₀, rfl, first, later⟩ := h.shown t₀ before
    exact timed w₀ w first later
  | _ => cases read

theorem Watch.Tracks.next (h : g.Tracks s start w) (op : SharedOp) :
    (watching.next g op ((s.handle op).run w).1).Tracks s start ((s.handle op).run w).2 := by
  have framed := h.frame (.step op .refl)
  refine ⟨framed.later, fun t read => ?_⟩
  rcases List.mem_append.1 read with new | old
  · cases op with
    | stopwatch =>
      obtain rfl := List.mem_singleton.1 new
      exact ⟨w, rfl, h.later, .step .stopwatch .refl⟩
    | _ => cases new
  · exact framed.shown t old

end

/-- In its run a program is interrupted: one of its operations is. -/
def Program.Interrupted {Op σ α : Type} {Reply : Op → Type} (handle : (op : Op) → Act σ (Reply op)) :
    Program Reply α → σ → Prop
  | .done _, _ => False
  | .call op resume, x =>
    isBroken ((handle op).run x).1 = true ∨ (resume ((handle op).run x).1).Interrupted handle ((handle op).run x).2

theorem Program.Keeps.run {α : Type} {post : α → Watch → Prop} (hs : s.Guarded) {start : World ω} (timed : s.Timed start)
    {p : Program SharedOp.Reply α} : ∀ {g : Watch} {w : World ω}, g.Tracks s start w → p.Keeps watching g post →
      ∃ h, post (p.run s.handle w).1 h ∧ (h.interrupted = true ↔ g.interrupted = true ∨ p.Interrupted s.handle w) := by
  induction p with
  | done a =>
    intro g w _ kept
    exact ⟨g, kept, (or_iff_left id).symm⟩
  | call op resume ih =>
    intro g w tracks kept
    obtain ⟨k, same, kept⟩ := kept
    rw [same] at kept
    obtain ⟨h, ends, broken⟩ := ih _ (tracks.next op) (kept _ (tracks.answers hs timed op))
    refine ⟨h, ends, broken.trans ?_⟩
    have either : (watching.next g op ((s.handle op).run w).1).interrupted = true ↔
        g.interrupted = true ∨ isBroken ((s.handle op).run w).1 = true := Bool.or_eq_true_iff
    rw [either, or_assoc]
    rfl

/-! ## Suites that are not interrupted -/

/-- A test case has come to a result of its own. -/
def CaseDescriptor.Completed (d : CaseDescriptor) (r : Except Fault CaseResult) : Prop :=
  ∃ result, r = .ok result ∧ d.Completes result

section

variable (s) {plan : SuitePlan} (start : World ω)

/-- Every test case under way has not been interrupted, and completes. -/
def CompletingCrew (cases : List CaseDescriptor) (crew : Crew) (w : World ω) : Prop :=
  s.Later start w ∧ ∀ u x, crew u = some x → ∃ d g, cases[x.place]? = some d ∧ Watch.Tracks s start g w ∧
    g.interrupted = false ∧
    x.rest.Keeps watching g fun r h => EndsIn False d.Completes false r h.interrupted

variable {s start}

theorem CompletingCrew.update {cases : List CaseDescriptor} {crew : Crew} {u : UnitId} {w w' : World ω}
    {x : Option Running} (h : CompletingCrew s start cases crew w) (later : s.Later w w')
    (here : ∀ y, x = some y → ∃ d g, cases[y.place]? = some d ∧ Watch.Tracks s start g w' ∧ g.interrupted = false ∧
      y.rest.Keeps watching g fun r h => EndsIn False d.Completes false r h.interrupted) :
    CompletingCrew s start cases (Function.update crew u x) w' := by
  refine ⟨h.1.trans later, fun u' y busy => ?_⟩
  by_cases same : u' = u
  · subst same
    rw [Function.update_self] at busy
    exact here y busy
  · rw [Function.update_of_ne same] at busy
    obtain ⟨d, g, listed, tracks, calm, kept⟩ := h.2 u' y busy
    exact ⟨d, g, listed, tracks.frame later, calm, kept⟩

variable (hs : s.Uninterrupted) (timed : s.Timed start) (hk : plan.registry.Vigilant)
include hs timed hk

theorem upholds_completing (cases : List CaseDescriptor) :
    Crew.Upholds s plan cases (CompletingCrew s start cases) CaseDescriptor.Completed where
  begin := by
    intro crew w place d u holds listed free
    refine holds.update .refl fun y same => ?_
    cases same
    exact ⟨d, ⟨[], false⟩, listed, .first holds.1, rfl, keeps_run_watching d hk u ⟨[], false⟩⟩
  act := by
    intro crew w u place op resume holds here
    obtain ⟨d, g, listed, tracks, calm, kept⟩ := holds.2 u _ here
    obtain ⟨k, same, kept⟩ := kept
    rw [same] at kept
    refine holds.update (.step op .refl) fun y same => ?_
    cases same
    refine ⟨d, _, listed, tracks.next op, ?_, kept _ (tracks.answers hs.guarded timed op)⟩
    have ordinary := ordinary_iff.1 (Surroundings.ordinarily_handle hs op w)
    exact (congrArg (g.interrupted || ·) ordinary).trans ((Bool.or_false _).trans calm)
  finish := by
    intro crew w u place r holds here
    obtain ⟨d, g, listed, -, calm, kept⟩ := holds.2 u _ here
    refine ⟨⟨d, listed, ?_⟩, holds.update .refl fun y same => by cases same⟩
    have ended : EndsIn False d.Completes false r g.interrupted := kept
    rw [calm] at ended
    cases ended with
    | ok completes => exact ⟨_, rfl, completes⟩
    | failed never _ => exact never.elim
  note holds := ⟨holds.1.step (.log _ _), fun _ _ busy => by cases busy⟩
  completes completed := by
    obtain ⟨result, same, -⟩ := completed
    exact ⟨result, same⟩

/-- Every test case comes to a result of its own, whatever the schedule. -/
theorem runAll_completes (cases : List CaseDescriptor) (schedule : List Nat) :
    ∃ results w', (s.runAll plan cases schedule).run start = (.ok results, w') ∧
      caseOutcomes s plan cases schedule start = results.map .ok ∧
      List.Forall₂ CaseDescriptor.Completes cases results := by
  have idle : CompletingCrew s start cases .idle start := ⟨.refl, fun _ _ busy => by cases busy⟩
  obtain ⟨results, w', runs, outcomes, -, settled⟩ := (upholds_completing hs timed hk cases).runAll idle schedule
  refine ⟨results, w', runs, outcomes, settled.imp fun d result completed => ?_⟩
  obtain ⟨_, same, completes⟩ := completed
  cases same
  exact completes

end

/-! ## Suites that are interrupted -/

section

variable (s) (plan : SuitePlan)

/-- On the way through test cases one after another an operation is interrupted. -/
def InterruptedAmong : List CaseDescriptor → World ω → Prop
  | [], _ => False
  | d :: rest, w =>
    (ExceptT.run (d.run plan .calling)).Interrupted s.handle w ∨
      InterruptedAmong rest ((s.perform (d.run plan .calling)).run w).2

variable {s plan}

/-- A test case whose run ends in an interruption was interrupted on the way. -/
theorem interrupted_of_isBroken (hs : s.Guarded) {w : World ω} (timed : s.Timed w) (hk : plan.registry.Vigilant)
    (d : CaseDescriptor) (u : UnitId) (broken : isBroken ((s.perform (d.run plan u)).run w).1 = true) :
    (ExceptT.run (d.run plan u)).Interrupted s.handle w := by
  obtain ⟨h, ended, told⟩ := Program.Keeps.run hs timed (.first .refl) (keeps_run_watching d hk u ⟨[], false⟩)
  have same : ((s.perform (d.run plan u)).run w).1 = ((ExceptT.run (d.run plan u)).run s.handle w).1 := rfl
  rw [same] at broken
  generalize ((ExceptT.run (d.run plan u)).run s.handle w).1 = r at ended broken
  generalize h.interrupted = b at ended told
  cases ended with
  | ok _ => cases broken
  | failed never _ => exact never.elim
  | interrupted _ => exact (told.1 rfl).resolve_left Bool.false_ne_true

theorem runEach_interrupted (hs : s.Guarded) {start : World ω} (timed : s.Timed start) (hk : plan.registry.Vigilant) :
    ∀ (cases : List CaseDescriptor) {w : World ω}, s.Later start w → InterruptedAmong s plan cases w →
      ∃ message w', (s.runEach plan cases).run w = (.error (.interrupt message), w')
  | d :: rest, w, later, broken => by
    obtain ⟨h, ended, told⟩ := Program.Keeps.run hs timed (.first later) (keeps_run_watching d hk .calling ⟨[], false⟩)
    have went : (s.perform (d.run plan .calling)).run w =
        (((ExceptT.run (d.run plan .calling)).run s.handle w).1, ((ExceptT.run (d.run plan .calling)).run s.handle w).2) := rfl
    unfold Surroundings.runEach
    rw [Act.run_bind, went]
    generalize ((ExceptT.run (d.run plan .calling)).run s.handle w).1 = r at ended
    generalize hb : h.interrupted = b at ended told
    cases ended with
    | ok _ =>
      have calm : ¬ (ExceptT.run (d.run plan .calling)).Interrupted s.handle w := fun interrupted => by
        cases told.2 (.inr interrupted)
      obtain ⟨message, w', others⟩ := runEach_interrupted hs timed hk rest (later.run _) (broken.resolve_left calm)
      refine ⟨message, w', ?_⟩
      dsimp only
      rw [Act.run_bind, others]
    | failed never _ => exact never.elim
    | @interrupted fault is =>
      cases fault with
      | interrupt message => exact ⟨message, _, rfl⟩
      | _ => cases is

end

/-! ## The whole suite -/

section

variable {plan : SuitePlan} {w : World ω} (schedule : List Nat)

/-- Where the test cases cannot be listed, the suite ends in a fault of the test definitions. -/
theorem runSuite_unlisted (plan : SuitePlan) (hs : s.Uninterrupted) {fault : Fault}
    (lists : (s.source.listActive.run (s.listingWorld w).outer).1 = .error fault) (ordinary : fault.isInterrupt = false) :
    ∃ path w', s.runSuite plan schedule w = (⟨.error (Surroundings.listFault fault), path⟩, w') := by
  obtain ⟨w₁, listed⟩ : ∃ w₁, (World.zoom s.source.listActive).run (s.listingWorld w) = (.error fault, w₁) :=
    ⟨_, Prod.ext lists rfl⟩
  obtain ⟨completedAt, path, w', ends⟩ := run_finishSuite plan hs.report hs.listeners [] (s.now w.outer)
    (s.logged .error ("Failed to list test cases: " ++ fault.message) w₁)
  exact ⟨path, w', Surroundings.runSuite_of_unlisted hs.report listed ordinary ends⟩

variable {cases : List CaseDescriptor} (hk : plan.registry.Vigilant) (timed : s.Timed (s.startingWorld cases w))
  (lists : (s.source.listActive.run (s.listingWorld w).outer).1 = .ok cases)
include hk timed lists

/-- The summary of a suite holds what its test cases come to, in their order. -/
theorem runSuite_completes (hs : s.Uninterrupted) : ∃ results completedAt path w',
    s.runSuite plan schedule w = (⟨.ok (.ofResults results (s.now w.outer) completedAt), path⟩, w') ∧
    caseOutcomes s plan cases schedule (s.startingWorld cases w) = results.map .ok ∧
    List.Forall₂ CaseDescriptor.Completes cases results := by
  obtain ⟨results, w₁, runs, outcomes, completes⟩ := runAll_completes hs timed hk cases schedule
  obtain ⟨completedAt, path, w₂, ends⟩ := run_finishSuite plan hs.report hs.listeners results (s.now w.outer) w₁
  exact ⟨results, completedAt, path, _, Surroundings.runSuite_of_results hs.report lists runs ends, outcomes, completes⟩

theorem runSuite_interrupted (hs : s.Guarded) (one : Surroundings.workerCount plan cases.length ≤ 1)
    (broken : InterruptedAmong s plan cases (s.startingWorld cases w)) :
    ∃ message w', s.runSuite plan schedule w = (⟨.error (.interrupt message), none⟩, w') := by
  obtain ⟨message, w', stops⟩ := runEach_interrupted hs timed hk cases .refl broken
  have alone : s.runAll plan cases schedule = s.runEach plan cases := if_pos one
  exact ⟨message, w', Surroundings.runSuite_of_stopped hs.report lists (by rw [alone, stops])⟩

end

end KeywordSuite
