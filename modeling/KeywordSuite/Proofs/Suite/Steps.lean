import KeywordSuite.Proofs.Suite.Crew
import KeywordSuite.Proofs.Suite.Scene

/-!
# A suite runs in steps

Whatever the schedule, running a suite is a run of steps from one scene to another: every test case
is begun, goes on one operation at a time, and is ended, and nothing else touches a session.
-/

namespace KeywordSuite

variable {ω : Type} (s : Surroundings ω) (plan : SuitePlan)

/-! ## A crew in steps -/

/-- A run of steps has led to a crew and a world; whoever it has heard of is under way or has ended. -/
def Enacted (start : World (Recorded ω)) (ended : Outcomes) (crew : Crew) (w : World (Recorded ω)) : Prop :=
  ∃ σ, Scene.Run s plan (.opening start) σ ∧ σ.crew = crew ∧ σ.world = w ∧
    ∀ place, σ.history.Knows place → (∃ u x, crew u = some x ∧ x.place = place) ∨ ∃ q ∈ ended, q.1 = place

/-- Whoever is under way still is, where one unit goes on with its own test case. -/
theorem Crew.busy_update {crew : Crew} {u : UnitId} {y : Running} {place : Nat}
    (own : ∀ x, crew u = some x → x.place = y.place) (busy : ∃ v x, crew v = some x ∧ x.place = place) :
    ∃ v x, Function.update crew u (some y) v = some x ∧ x.place = place := by
  obtain ⟨v, x, here, same⟩ := busy
  by_cases hv : v = u
  · subst hv
    exact ⟨v, y, Function.update_self .., (own x here).symm.trans same⟩
  · refine ⟨v, x, ?_, same⟩
    rw [Function.update_of_ne hv]
    exact here

theorem enacted_attends (start : World (Recorded ω)) (cases : List CaseDescriptor) :
    Crew.Attends s.recorded plan cases (Enacted s plan start) where
  begin := by
    intro ended crew w place d u h _ free spares
    obtain ⟨σ, run, rfl, rfl, known⟩ := h
    -- A place that is known is under way or has ended, and a free place is neither.
    have fresh : ¬ σ.history.Knows place := by
      intro heard
      rcases known place heard with ⟨v, x, busy, same⟩ | ⟨q, done, same⟩
      · exact spares.busy v x busy same
      · exact spares.ended q done same
    refine ⟨_, run.tail (.begin d free fresh), rfl, rfl, fun k heard => ?_⟩
    rcases History.knows_noted _ _ heard with old | rfl
    · refine (known k old).imp_left (Crew.busy_update fun x busy => ?_)
      cases free.symm.trans busy
    · exact .inl ⟨u, _, Function.update_self .., rfl⟩
  act := by
    intro ended crew w u place op resume h here
    obtain ⟨σ, run, rfl, rfl, known⟩ := h
    refine ⟨_, run.tail (.act here), rfl, rfl, fun k heard => ?_⟩
    rcases History.knows_noted _ _ heard with old | rfl
    · refine (known k old).imp_left (Crew.busy_update fun x busy => ?_)
      cases here.symm.trans busy
      rfl
    · exact .inl ⟨u, _, Function.update_self .., rfl⟩
  finish := by
    intro ended crew w u place r h here
    obtain ⟨σ, run, rfl, rfl, known⟩ := h
    have gone : ∃ q ∈ ended ++ [(place, r)], q.1 = place := ⟨_, List.mem_append_right _ (List.mem_singleton.2 rfl), rfl⟩
    refine ⟨_, run.tail (.finish here), rfl, rfl, fun k heard => ?_⟩
    rcases History.knows_noted _ _ heard with old | rfl
    · rcases known k old with ⟨v, x, busy, rfl⟩ | ⟨q, done, same⟩
      · by_cases hv : v = u
        · subst hv
          cases here.symm.trans busy
          exact .inr gone
        · refine .inl ⟨v, x, ?_, rfl⟩
          rw [Function.update_of_ne hv]
          exact busy
      · exact .inr ⟨q, List.mem_append_left _ done, same⟩
    · exact .inr gone
  note := by
    intro w level message h
    obtain ⟨σ, run, crew, rfl, known⟩ := h
    have same : SameSessions σ.world ((s.recorded.note level message).run σ.world).2 := ⟨rfl, rfl⟩
    exact ⟨_, run.tail (.aside same), crew, rfl, known⟩

/-! ## The whole suite -/

section

variable {s plan} {α β : Type}

def SameSessions.Throughout (act : Act (World (Recorded ω)) α) : Prop := ∀ w, SameSessions w (act.run w).2

/-- An action in which test cases run is a run of steps, and leaves nobody busy. -/
def Enacts (s : Surroundings ω) (plan : SuitePlan) (act : Act (World (Recorded ω)) α) : Prop :=
  ∀ w, ∃ τ, Scene.Run s plan (.opening w) τ ∧ (∀ u, τ.crew u = none) ∧ τ.world = (act.run w).2

theorem SameSessions.trans {w w' w'' : World (Recorded ω)} (h : SameSessions w w')
    (h' : SameSessions w' w'') : SameSessions w w'' := ⟨h'.1.trans h.1, h'.2.trans h.2⟩

theorem SameSessions.Throughout.bind {p : Act (World (Recorded ω)) α} {f : α → Act (World (Recorded ω)) β}
    (hp : Throughout p) (hf : ∀ a, Throughout (f a)) : Throughout (p >>= f) := by
  intro w
  have first := hp w
  rw [Act.run_bind]
  cases hr : p.run w with
  | mk r w' =>
    rw [hr] at first
    cases r with
    | ok a => exact first.trans (hf a w')
    | error fault => exact first

theorem sameSessions_pure (a : α) : SameSessions.Throughout (pure a : Act (World (Recorded ω)) α) :=
  fun _ => ⟨rfl, rfl⟩

theorem sameSessions_note (level : LogLevel) (message : String) :
    SameSessions.Throughout (s.recorded.note level message) := fun _ => ⟨rfl, rfl⟩

theorem sameSessions_program (p : Program SharedOp.Reply α) :
    ApartProgram p → ∀ w, SameSessions w (p.run s.recorded.handle w).2 := by
  induction p with
  | done a => exact fun _ w => ⟨rfl, rfl⟩
  | call op resume ih =>
    intro h w
    obtain ⟨_, apart, rest⟩ := h
    exact (sameSessions_apart apart).trans (ih _ (rest _ trivial) _)

theorem sameSessions_perform {p : SharedProcedure α} (h : Apart p) :
    SameSessions.Throughout (s.recorded.perform p) := fun w => sameSessions_program _ h w

theorem SameSessions.Throughout.enacts {p : Act (World (Recorded ω)) α} (hp : Throughout p) :
    Enacts s plan p := by
  intro w
  exact ⟨_, .single (.aside (hp w)), fun _ => rfl, rfl⟩

theorem Enacts.after {p : Act (World (Recorded ω)) α} {f : α → Act (World (Recorded ω)) β}
    (hp : SameSessions.Throughout p) (hf : ∀ a, Enacts s plan (f a)) : Enacts s plan (p >>= f) := by
  intro w
  have first := hp w
  rw [Act.run_bind]
  cases hr : p.run w with
  | mk r w' =>
    rw [hr] at first
    have aside : Scene.Run s plan (.opening w) (.opening w') := .single (.aside first)
    cases r with
    | error fault => exact ⟨_, aside, fun _ => rfl, rfl⟩
    | ok a =>
      obtain ⟨τ, run, rest⟩ := hf a w'
      exact ⟨τ, Relation.ReflTransGen.trans aside run, rest⟩

theorem Enacts.before {p : Act (World (Recorded ω)) α} {f : α → Act (World (Recorded ω)) β}
    (hp : Enacts s plan p) (hf : ∀ a, SameSessions.Throughout (f a)) : Enacts s plan (p >>= f) := by
  intro w
  obtain ⟨τ, run, idle, world⟩ := hp w
  rw [Act.run_bind]
  cases hr : p.run w with
  | mk r w' =>
    rw [hr] at world
    subst world
    cases r with
    | error fault => exact ⟨τ, run, idle, rfl⟩
    | ok a => exact ⟨_, run.tail (.aside (hf a τ.world)), idle, rfl⟩

theorem enacts_runAll (cases : List CaseDescriptor) (schedule : List Nat) :
    Enacts s plan (s.recorded.runAll plan cases schedule) := by
  intro w
  have idle : Enacted s plan w [] .idle w := by
    refine ⟨.opening w, .refl, rfl, rfl, fun place known => ?_⟩
    obtain ⟨_, never, _⟩ := known
    cases never
  obtain ⟨ended, ⟨σ, run, crew, world, -⟩, -⟩ := (enacted_attends s plan w cases).runAll idle schedule
  exact ⟨σ, run, fun u => congrFun crew u, world⟩

theorem apart_finishSuite (results : List CaseResult) (startedAt : Timestamp) :
    Apart (Surroundings.finishSuite plan results startedAt) := by
  apply (apart_tellReport _).bind
  intro path
  apply (apart_perform .now rfl).bind
  intro completedAt
  have informs : Apart (informAll (.finished (SuiteSummary.ofResults results startedAt completedAt)) 0
      plan.listeners).outcome := Program.keeps_bind _ _ _ _ |>.2 <|
    Program.Keeps.mono (fun _ _ _ => trivial) (apart_informAll _ _ _)
  exact informs.bind fun _ => apart_pure _

theorem sameSessions_listActive : SameSessions.Throughout (World.zoom s.recorded.source.listActive).attempt := by
  intro w
  rw [Act.run_attempt, World.run_zoom]
  exact ⟨rfl, rfl⟩

theorem enacts_runListed (schedule : List Nat) : Enacts s plan (s.recorded.runListed plan schedule) := by
  have reads : SameSessions.Throughout (Surroundings.readClock s.recorded.now) := fun _ => ⟨rfl, rfl⟩
  unfold Surroundings.runListed
  apply Enacts.after reads
  intro startedAt
  apply Enacts.after (sameSessions_note _ _)
  intro _
  apply Enacts.after (sameSessions_perform (apart_tellReport _))
  intro _
  apply Enacts.after sameSessions_listActive
  intro listed
  cases listed with
  | error fault =>
    apply SameSessions.Throughout.enacts
    apply SameSessions.Throughout.bind (sameSessions_note _ _)
    intro _
    exact (sameSessions_perform (apart_finishSuite _ _)).bind fun _ => sameSessions_pure _
  | ok cases =>
    apply Enacts.after (sameSessions_note _ _)
    intro _
    apply Enacts.before (enacts_runAll cases schedule)
    intro results
    apply (sameSessions_perform (apart_finishSuite _ _)).bind
    intro ended
    dsimp only
    split
    · apply SameSessions.Throughout.bind (sameSessions_note _ _)
      intro _
      exact (sameSessions_note _ _).bind fun _ => sameSessions_pure _
    · exact sameSessions_pure _

/-- Running a suite is a run of steps that leaves nobody busy. -/
theorem run_runSuite (schedule : List Nat) (w : World (Recorded ω)) :
    ∃ τ, Scene.Run s plan (.opening w) τ ∧ (∀ u, τ.crew u = none) ∧
      τ.world = (s.recorded.runSuite plan schedule w).2 := by
  obtain ⟨τ, run, idle, world⟩ := enacts_runListed schedule w
  refine ⟨τ, run, idle, world.trans ?_⟩
  unfold Surroundings.runSuite
  cases (s.recorded.runListed plan schedule).run w with
  | mk r w' => cases r <;> rfl

end

end KeywordSuite
