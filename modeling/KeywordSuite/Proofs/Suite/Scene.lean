import Mathlib.Logic.Function.Basic
import Mathlib.Logic.Relation
import KeywordSuite.Proofs.Suite.Underway

/-!
# Scenes of a suite

A scene is a suite at one moment: the test case under way on each unit, the world, and the history
so far. A step begins a test case, does one operation of one, or ends one; meanwhile the world may
change in what has to do with no session. Every run of steps leaves a tidy scene.
-/

namespace KeywordSuite

variable {ω : Type}

structure Scene (ω : Type) where
  crew : UnitId → Option Running
  world : World (Recorded ω)
  history : History

namespace Scene

/-- The scene before any test case has begun. -/
def opening (w : World (Recorded ω)) : Scene ω := ⟨fun _ => none, w, []⟩

variable (σ : Scene ω)

def place? (u : UnitId) : Option Nat := (σ.crew u).map Running.place

def begin (plan : SuitePlan) (u : UnitId) (place : Nat) (d : CaseDescriptor) : Scene ω where
  crew := Function.update σ.crew u (some ⟨place, Pool.program plan d u⟩)
  world := σ.world
  history := σ.history.noted place [.began d u]

def act (s : Surroundings ω) (u : UnitId) (place : Nat) (op : SharedOp)
    (resume : Except Fault op.Reply → Program SharedOp.Reply (Except Fault CaseResult)) : Scene ω where
  crew := Function.update σ.crew u (some ⟨place, resume ((s.recorded.handle op).run σ.world).1⟩)
  world := ((s.recorded.handle op).run σ.world).2
  history := σ.history.noted place (operationEvents op
    (((s.recorded.handle op).run σ.world).2.outer.journal.drop σ.world.outer.journal.length))

def finish (u : UnitId) (place : Nat) (r : Except Fault CaseResult) : Scene ω where
  crew := Function.update σ.crew u none
  world := σ.world
  history := σ.history.noted place [.ended r]

variable (s : Surroundings ω) (plan : SuitePlan)

inductive Step : Scene ω → Scene ω → Prop
  | begin {σ : Scene ω} {u : UnitId} {place : Nat} (d : CaseDescriptor) (idle : σ.crew u = none)
      (fresh : ¬ σ.history.Knows place) : Step σ (σ.begin plan u place d)
  | act {σ : Scene ω} {u : UnitId} {place : Nat} {op : SharedOp}
      {resume : Except Fault op.Reply → Program SharedOp.Reply (Except Fault CaseResult)}
      (busy : σ.crew u = some ⟨place, .call op resume⟩) : Step σ (σ.act s u place op resume)
  | finish {σ : Scene ω} {u : UnitId} {place : Nat} {r : Except Fault CaseResult}
      (ending : σ.crew u = some ⟨place, .done r⟩) : Step σ (σ.finish u place r)
  | aside {σ : Scene ω} {w : World (Recorded ω)} (same : SameSessions σ.world w) :
      Step σ { σ with world := w }

def Run : Scene ω → Scene ω → Prop := Relation.ReflTransGen (Step s plan)

end Scene

/-! ## Tidy scenes -/

/--
Every session lives in the unit of the test case that created it or has a whole life behind it, and
every test case that has begun is under way on one unit or has come to an outcome.
-/
structure Tidy (s : Surroundings ω) (σ : Scene ω) : Prop where
  journal : σ.world.outer.journal = σ.history.sessionLog.map Prod.snd
  lives : Lives σ.place? σ.world.sessions σ.history.sessionLog
  known : ∀ u x, σ.crew u = some x → σ.history.Knows x.place
  apart : ∀ u v x y, σ.crew u = some x → σ.crew v = some y → x.place = y.place → u = v
  underway : ∀ u x, σ.crew u = some x →
    ∃ g, Underway s u (σ.world.sessions.live? u) (σ.history.deeds x.place) x.rest g
  concluded : ∀ k, σ.history.Knows k → (∃ u x, σ.crew u = some x ∧ x.place = k) ∨
    ∃ deeds r, σ.history.deeds k = deeds ++ [.ended r] ∧ Concluded s deeds r

/-- What a step makes of the test case at a place: it is still under way or has come to an outcome. -/
def Becomes (s : Surroundings ω) (u : UnitId) (place : Nat) (live : Option SessionId)
    (deeds : List CaseEvent) : Option Running → Prop
  | some x => x.place = place ∧ ∃ g, Underway s u live deeds x.rest g
  | none => ∃ before r, deeds = before ++ [.ended r] ∧ Concluded s before r

theorem tidy_opening (s : Surroundings ω) (outer : ω) : Tidy s (.opening ⟨.empty, ⟨outer, []⟩⟩) where
  journal := rfl
  lives := .empty _
  known _ _ busy := by cases busy
  apart _ _ _ _ busy := by cases busy
  underway _ _ busy := by cases busy
  concluded := by
    intro k known
    obtain ⟨_, h, _⟩ := known
    cases h

namespace Tidy

variable {s : Surroundings ω} {plan : SuitePlan} {σ : Scene ω} {u : UnitId} {place : Nat}

theorem live_eq_none (h : Tidy s σ) (idle : σ.crew u = none) : σ.world.sessions.live? u = none := by
  cases hl : σ.world.sessions.live? u with
  | none => rfl
  | some n =>
    obtain ⟨-, k, here, -⟩ := h.lives.held u n hl
    unfold Scene.place? at here
    rw [idle] at here
    cases here

/--
A step of the test case at a place, on its unit: the test case goes on or comes to an outcome, and
the other test cases see nothing of it.
-/
theorem change (h : Tidy s σ) {next : Option Running} {w : World (Recorded ω)} {events : List CaseEvent}
    (was : ∀ x, σ.crew u = some x → x.place = place)
    (others : ∀ v x, v ≠ u → σ.crew v = some x → x.place ≠ place)
    (known : (σ.history.noted place events).Knows place)
    (journal : w.outer.journal = σ.world.outer.journal ++ events.filterMap CaseEvent.session?)
    (elsewhere : ∀ v, v ≠ u → w.sessions.live? v = σ.world.sessions.live? v)
    (lives : Lives (fun v => (Function.update σ.crew u next v).map Running.place) w.sessions
      (σ.history.noted place events).sessionLog)
    (becomes : Becomes s u place (w.sessions.live? u) (σ.history.deeds place ++ events) next) :
    Tidy s ⟨Function.update σ.crew u next, w, σ.history.noted place events⟩ := by
  have other : ∀ v, v ≠ u → Function.update σ.crew u next v = σ.crew v :=
    fun v hv => Function.update_of_ne hv ..
  have mine : ∀ x, Function.update σ.crew u next u = some x → x.place = place ∧
      ∃ g, Underway s u (w.sessions.live? u) (σ.history.deeds place ++ events) x.rest g := by
    intro x hx
    rw [Function.update_self] at hx
    subst hx
    exact becomes
  refine ⟨?journal, lives, ?known, ?apart, ?underway, ?concluded⟩
  case journal =>
    show w.outer.journal = (σ.history.noted place events).sessionLog.map Prod.snd
    rw [journal, History.sessionLog_noted, List.map_append, h.journal, List.map_map]
    congr 1
    exact (List.map_id _).symm
  case known =>
    intro v x hx
    by_cases hv : v = u
    · subst hv
      rw [(mine x hx).1]
      exact known
    · exact (h.known v x ((other v hv).symm.trans hx)).noted ..
  case apart =>
    -- Only the step's unit is at its place, before the step and after it.
    intro v v' x y hx hy same
    by_cases hv : v = u
    · by_cases hv' : v' = u
      · exact hv.trans hv'.symm
      · subst hv
        exact absurd (same.symm.trans (mine x hx).1) (others v' y hv' ((other v' hv').symm.trans hy))
    · by_cases hv' : v' = u
      · subst hv'
        exact absurd (same.trans (mine y hy).1) (others v x hv ((other v hv).symm.trans hx))
      · exact h.apart v v' x y ((other v hv).symm.trans hx) ((other v' hv').symm.trans hy) same
  case underway =>
    intro v x hx
    by_cases hv : v = u
    · subst hv
      obtain ⟨hp, underway⟩ := mine x hx
      dsimp only
      rw [hp, History.deeds_noted_self]
      exact underway
    · have hx := (other v hv).symm.trans hx
      dsimp only
      rw [elsewhere v hv, History.deeds_noted_other _ _ _ (others v x hv hx)]
      exact h.underway v x hx
  case concluded =>
    intro k hk
    by_cases hp : k = place
    · subst hp
      cases next with
      | some x => exact .inl ⟨u, x, Function.update_self .., becomes.1⟩
      | none =>
        right
        dsimp only
        rw [History.deeds_noted_self]
        exact becomes
    · have before := (History.knows_noted _ _ hk).resolve_right hp
      dsimp only
      rw [History.deeds_noted_other _ _ _ hp]
      refine (h.concluded k before).imp_left ?_
      intro busy
      obtain ⟨v, x, hx, rfl⟩ := busy
      have hv : v ≠ u := by
        intro same
        subst same
        exact hp (was x hx)
      exact ⟨v, x, (other v hv).trans hx, rfl⟩

theorem lives_moved (h : Tidy s σ) (gone : σ.world.sessions.live? u = none) {events : List CaseEvent}
    (quiet : events.filterMap CaseEvent.session? = []) (next : Option Running) :
    Lives (fun v => (Function.update σ.crew u next v).map Running.place) σ.world.sessions
      (σ.history.noted place events).sessionLog := by
  rw [History.sessionLog_noted, quiet, List.map_nil, List.append_nil]
  apply h.lives.moved
  intro v n live
  have hv : v ≠ u := by
    intro same
    rw [same, gone] at live
    cases live
  rw [Function.update_of_ne hv]
  rfl

theorem begin (h : Tidy s σ) (hk : plan.registry.Courteous) (d : CaseDescriptor) (idle : σ.crew u = none)
    (fresh : ¬ σ.history.Knows place) : Tidy s (σ.begin plan u place d) := by
  have gone := h.live_eq_none idle
  apply h.change
  case was =>
    intro x hx
    rw [idle] at hx
    cases hx
  case others =>
    intro v x _ hx same
    exact fresh (same ▸ h.known v x hx)
  case known => exact ⟨(place, .began d u), List.mem_append_right _ (List.mem_singleton.2 rfl), rfl⟩
  case journal => exact (List.append_nil _).symm
  case elsewhere => exact fun _ _ => rfl
  case lives => exact h.lives_moved gone rfl _
  case becomes =>
    rw [History.deeds_of_not_knows fresh, gone]
    exact ⟨rfl, _, underway_begin hk d⟩

theorem others (h : Tidy s σ) {x : Running} (hx : σ.crew u = some x) :
    ∀ v y, v ≠ u → σ.crew v = some y → y.place ≠ x.place :=
  fun v y hv hy same => hv (h.apart v u y x hy hx same)

theorem act (h : Tidy s σ) (hc : s.closeFault = none) (hq : ∀ n, (s.browse n .quit).Ordinarily)
    {op : SharedOp} {resume : Except Fault op.Reply → Program SharedOp.Reply (Except Fault CaseResult)}
    (busy : σ.crew u = some ⟨place, .call op resume⟩) : Tidy s (σ.act s u place op resume) := by
  obtain ⟨g, underway⟩ := h.underway u _ busy
  obtain ⟨events, ⟨journal, effect⟩, g', next⟩ := underway.act hc hq
  have seen : ((s.recorded.handle op).run σ.world).2.outer.journal.drop σ.world.outer.journal.length =
      events := by
    rw [journal, List.drop_left]
  unfold Scene.act
  rw [seen]
  -- the unit goes on with its program at the place where it was
  have stays : (fun v => (Function.update σ.crew u
      (some ⟨place, resume ((s.recorded.handle op).run σ.world).1⟩) v).map Running.place) = σ.place? := by
    funext v
    by_cases hv : v = u
    · subst hv
      rw [Function.update_self]
      unfold Scene.place?
      rw [busy]
      rfl
    · rw [Function.update_of_ne hv]
      rfl
  have here : σ.place? u = some place := by
    unfold Scene.place?
    rw [busy]
    rfl
  apply h.change
  case was =>
    intro x hx
    rw [busy] at hx
    cases hx
    rfl
  case others => exact h.others busy
  case known => exact (h.known u _ busy).noted ..
  case journal =>
    rw [session_operationEvents]
    exact journal
  case elsewhere => exact fun v hv => effect.live_other hv
  case lives =>
    rw [stays, History.sessionLog_noted, session_operationEvents]
    refine h.lives.affected here ?_ effect
    intro v k hk same
    subst same
    obtain ⟨x, hx, hp⟩ := Option.map_eq_some_iff.1 hk
    exact h.apart v u x _ hx busy hp
  case becomes => exact ⟨rfl, g', next⟩

theorem finish (h : Tidy s σ) {r : Except Fault CaseResult} (ending : σ.crew u = some ⟨place, .done r⟩) :
    Tidy s (σ.finish u place r) := by
  obtain ⟨g, underway⟩ := h.underway u _ ending
  have gone := underway.live_eq_none
  apply h.change
  case was =>
    intro x hx
    rw [ending] at hx
    cases hx
    rfl
  case others => exact h.others ending
  case known => exact (h.known u _ ending).noted ..
  case journal => exact (List.append_nil _).symm
  case elsewhere => exact fun _ _ => rfl
  case lives => exact h.lives_moved gone rfl _
  case becomes => exact ⟨_, r, rfl, underway.concluded⟩

theorem aside (h : Tidy s σ) {w : World (Recorded ω)} (same : SameSessions σ.world w) :
    Tidy s { σ with world := w } where
  journal := same.2.trans h.journal
  lives := by
    show Lives σ.place? w.sessions _
    rw [same.1]
    exact h.lives
  known := h.known
  apart := h.apart
  underway := by
    show ∀ u x, σ.crew u = some x → ∃ g, Underway s u (w.sessions.live? u) _ _ g
    rw [same.1]
    exact h.underway
  concluded := h.concluded

end Tidy

section

variable {s : Surroundings ω} {plan : SuitePlan} {σ τ : Scene ω}
variable (hc : s.closeFault = none) (hq : ∀ n, (s.browse n .quit).Ordinarily)
  (hk : plan.registry.Courteous)
include hc hq hk

theorem tidy_step (h : Tidy s σ) (step : Scene.Step s plan σ τ) : Tidy s τ := by
  cases step with
  | begin d idle fresh => exact h.begin hk d idle fresh
  | act busy => exact h.act hc hq busy
  | finish ending => exact h.finish ending
  | aside same => exact h.aside same

theorem tidy_run (h : Tidy s σ) (run : Scene.Run s plan σ τ) : Tidy s τ := by
  induction run with
  | refl => exact h
  | tail _ step ih => exact tidy_step hc hq hk ih step

end

end KeywordSuite
