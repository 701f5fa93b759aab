import KeywordSuite.Proofs.Keyword.Dispatch
import KeywordSuite.Suite.Run
import Mathlib.Data.List.Forall2
import Mathlib.Logic.Function.Basic

/-!
# What a crew makes of test cases

A crew has a test case under way on each unit that is busy. It begins one, does one operation of one, or ends
one, and begins none twice. What each of these steps keeps is kept on a pool of workers, whatever the schedule,
until every test case of the suite has ended.
-/

namespace KeywordSuite

variable {ω : Type} {s : Surroundings ω} {plan : SuitePlan}

abbrev Crew := UnitId → Option Running

def Crew.idle : Crew := fun _ => none

/-- Outcomes of test cases that have ended, by their places. -/
abbrev Outcomes := List (Nat × Except Fault CaseResult)

/-- Nobody has begun the test case at a place. -/
structure Crew.Spares (crew : Crew) (ended : Outcomes) (place : Nat) : Prop where
  busy : ∀ u x, crew u = some x → x.place ≠ place
  ended : ∀ q ∈ ended, q.1 ≠ place

/-- What the steps of a crew keep of the outcomes so far, the crew and the world. -/
structure Crew.Attends (s : Surroundings ω) (plan : SuitePlan) (cases : List CaseDescriptor)
    (Holds : Outcomes → Crew → World ω → Prop) : Prop where
  begin : ∀ {ended crew w place d u}, Holds ended crew w → cases[place]? = some d → crew u = none →
    crew.Spares ended place → Holds ended (Function.update crew u (some ⟨place, Pool.program plan d u⟩)) w
  act : ∀ {ended crew w u place op resume}, Holds ended crew w → crew u = some ⟨place, .call op resume⟩ →
    Holds ended (Function.update crew u (some ⟨place, resume ((s.handle op).run w).1⟩)) ((s.handle op).run w).2
  finish : ∀ {ended crew w u place r}, Holds ended crew w → crew u = some ⟨place, .done r⟩ →
    Holds (ended ++ [(place, r)]) (Function.update crew u none) w
  note : ∀ {w level message}, Holds [] .idle w → Holds [] .idle ((s.note level message).run w).2

variable {cases : List CaseDescriptor} {Holds : Outcomes → Crew → World ω → Prop} {ended : Outcomes} {crew : Crew}
  {u : UnitId} {w w₁ : World ω} {place : Nat}

namespace Crew.Attends

variable (h : Crew.Attends s plan cases Holds)
include h

theorem run (p : Program SharedOp.Reply (Except Fault CaseResult)) : ∀ {crew : Crew} {w : World ω},
    Holds ended crew w → crew u = some ⟨place, p⟩ →
      Holds (ended ++ [(place, (p.run s.handle w).1)]) (Function.update crew u none) (p.run s.handle w).2 := by
  induction p with
  | done r => exact fun holds here => h.finish holds here
  | call op resume ih =>
    intro crew w holds here
    have next := ih ((s.handle op).run w).1 (h.act holds here) (Function.update_self ..)
    rw [Function.update_idem] at next
    exact next

/-- A test case that runs while nobody else is busy. -/
theorem runAlone {d : CaseDescriptor} (holds : Holds ended .idle w) (listed : cases[place]? = some d)
    (fresh : ∀ q ∈ ended, q.1 ≠ place) (u : UnitId) :
    Holds (ended ++ [(place, ((Pool.program plan d u).run s.handle w).1)]) .idle
      ((Pool.program plan d u).run s.handle w).2 := by
  have begun := h.begin (u := u) holds listed rfl ⟨fun _ _ busy => (by cases busy), fresh⟩
  have left := h.run _ begun (Function.update_self ..)
  have free : Function.update Crew.idle u none = Crew.idle := Function.update_eq_self_iff.2 rfl
  rwa [Function.update_idem, free] at left

end Crew.Attends

/-! ## Each test case in one hand -/

/-- No test case is under way twice, or after it has ended. -/
structure Crew.Distinct (crew : Crew) (ended : Outcomes) : Prop where
  apart : ∀ u u' x x', crew u = some x → crew u' = some x' → x.place = x'.place → u = u'
  spent : ∀ q ∈ ended, ∀ u x, crew u = some x → x.place ≠ q.1

namespace Crew.Distinct

theorem idle : Crew.idle.Distinct [] := ⟨fun _ _ _ _ busy => (by cases busy), fun _ done => by cases done⟩

/-- Whoever is busy, but for one unit. -/
theorem busy_but {x : Running} {u' : UnitId} (busy : Function.update crew u none u' = some x) : u' ≠ u ∧ crew u' = some x := by
  have other : u' ≠ u := by
    rintro rfl
    rw [Function.update_self] at busy
    cases busy
  rw [Function.update_of_ne other] at busy
  exact ⟨other, busy⟩

variable (h : crew.Distinct ended)
include h

theorem alone {x : Running} (here : crew u = some x) : Crew.Spares (Function.update crew u none) ended x.place where
  busy u' x' busy same := (busy_but busy).1 (h.apart u' u x' x (busy_but busy).2 here same)
  ended q done same := h.spent q done u x here same.symm

/-- One unit has in hand what nobody else has. -/
theorem turn (alone : Crew.Spares (Function.update crew u none) ended place)
    (rest : Program SharedOp.Reply (Except Fault CaseResult)) :
    Crew.Distinct (Function.update crew u (some ⟨place, rest⟩)) ended := by
  have others : ∀ u' x, u' ≠ u → crew u' = some x → x.place ≠ place := fun u' x other busy =>
    alone.busy u' x (by rw [Function.update_of_ne other]; exact busy)
  refine ⟨fun u₁ u₂ x₁ x₂ busy₁ busy₂ same => ?_, fun q done u' x busy => ?_⟩
  · by_cases here₁ : u₁ = u <;> by_cases here₂ : u₂ = u
    · rw [here₁, here₂]
    · subst here₁
      rw [Function.update_self] at busy₁
      rw [Function.update_of_ne here₂] at busy₂
      cases busy₁
      exact absurd same.symm (others u₂ x₂ here₂ busy₂)
    · subst here₂
      rw [Function.update_self] at busy₂
      rw [Function.update_of_ne here₁] at busy₁
      cases busy₂
      exact absurd same (others u₁ x₁ here₁ busy₁)
    · rw [Function.update_of_ne here₁] at busy₁
      rw [Function.update_of_ne here₂] at busy₂
      exact h.apart u₁ u₂ x₁ x₂ busy₁ busy₂ same
  · by_cases here : u' = u
    · subst here
      rw [Function.update_self] at busy
      cases busy
      exact (alone.ended q done).symm
    · rw [Function.update_of_ne here] at busy
      exact h.spent q done u' x busy

theorem finish {x : Running} (here : crew u = some x) (r : Except Fault CaseResult) :
    Crew.Distinct (Function.update crew u none) (ended ++ [(x.place, r)]) where
  apart u₁ u₂ x₁ x₂ busy₁ busy₂ := h.apart u₁ u₂ x₁ x₂ (busy_but busy₁).2 (busy_but busy₂).2
  spent := by
    refine List.forall_mem_append.2 ⟨fun q done u' x busy => h.spent q done u' x (busy_but busy).2, ?_⟩
    exact List.forall_mem_singleton.2 fun u' x busy => (h.alone here).busy u' x busy

end Crew.Distinct

/-- What the steps of a crew keep where each of them has its test case alone. -/
structure Crew.AttendsAlone (s : Surroundings ω) (plan : SuitePlan) (cases : List CaseDescriptor)
    (Holds : Outcomes → Crew → World ω → Prop) : Prop where
  begin : ∀ {ended crew w place d u}, Holds ended crew w → cases[place]? = some d → crew u = none →
    crew.Spares ended place → Holds ended (Function.update crew u (some ⟨place, Pool.program plan d u⟩)) w
  act : ∀ {ended crew w u place op resume}, Holds ended crew w → crew u = some ⟨place, .call op resume⟩ →
    Crew.Spares (Function.update crew u none) ended place →
    Holds ended (Function.update crew u (some ⟨place, resume ((s.handle op).run w).1⟩)) ((s.handle op).run w).2
  finish : ∀ {ended crew w u place r}, Holds ended crew w → crew u = some ⟨place, .done r⟩ →
    Holds (ended ++ [(place, r)]) (Function.update crew u none) w
  note : ∀ {w level message}, Holds [] .idle w → Holds [] .idle ((s.note level message).run w).2

theorem Crew.AttendsAlone.attends (h : Crew.AttendsAlone s plan cases Holds) :
    Crew.Attends s plan cases fun ended crew w => Holds ended crew w ∧ crew.Distinct ended where
  begin holds listed free spares := by
    refine ⟨h.begin holds.1 listed free spares, holds.2.turn ⟨fun u' x busy => ?_, spares.ended⟩ _⟩
    exact spares.busy u' x (Crew.Distinct.busy_but busy).2
  act holds here := by
    have alone := holds.2.alone here
    exact ⟨h.act holds.1 here alone, holds.2.turn alone _⟩
  finish holds here := ⟨h.finish holds.1 here, holds.2.finish here _⟩
  note holds := ⟨h.note holds.1, holds.2⟩

/-! ## Workers -/

/-- The crew that workers are, counted from a number on. -/
def crewFrom : Nat → List (Option Running) → Crew
  | _, [] => .idle
  | i, x :: rest => Function.update (crewFrom (i + 1) rest) (.worker i) x

theorem crewFrom_before : ∀ (workers : List (Option Running)) {i j : Nat}, j < i →
    crewFrom i workers (.worker j) = none
  | [], _, _, _ => rfl
  | x :: rest, i, j, before => by
    have other : UnitId.worker j ≠ .worker i := fun same => Nat.ne_of_lt before (UnitId.worker.inj same)
    unfold crewFrom
    rw [Function.update_of_ne other]
    exact crewFrom_before rest (Nat.lt_succ_of_lt before)

theorem crewFrom_leave (x : Option Running) (rest : List (Option Running)) (i : Nat) :
    Function.update (crewFrom i (x :: rest)) (.worker i) none = crewFrom (i + 1) rest := by
  have idle : none = crewFrom (i + 1) rest (.worker i) := (crewFrom_before rest (Nat.lt_succ_self i)).symm
  conv_lhs => unfold crewFrom
  rw [Function.update_idem, idle, Function.update_eq_self]

theorem crewFrom_getElem? : ∀ (workers : List (Option Running)) (i j : Nat),
    crewFrom i workers (.worker (i + j)) = (workers[j]?).join
  | [], _, _ => rfl
  | x :: rest, i, 0 => Function.update_self ..
  | x :: rest, i, j + 1 => by
    have next : i + (j + 1) = i + 1 + j := by omega
    have other : UnitId.worker (i + 1 + j) ≠ .worker i := fun same => by
      have := UnitId.worker.inj same
      omega
    unfold crewFrom
    rw [next, Function.update_of_ne other]
    exact crewFrom_getElem? rest (i + 1) j

theorem crewFrom_seat {workers : List (Option Running)} {worker : Nat} {x : Option Running}
    (seat : workers[worker]? = some x) : crewFrom 0 workers (.worker worker) = x := by
  have found := crewFrom_getElem? workers 0 worker
  rw [Nat.zero_add, seat] at found
  exact found

theorem crewFrom_set (x : Option Running) : ∀ (workers : List (Option Running)) (i j : Nat), j < workers.length →
    crewFrom i (workers.set j x) = Function.update (crewFrom i workers) (.worker (i + j)) x
  | y :: rest, i, 0, _ => (Function.update_idem ..).symm
  | y :: rest, i, j + 1, inside => by
    have next : i + (j + 1) = i + 1 + j := by omega
    have other : UnitId.worker i ≠ .worker (i + 1 + j) := fun same => by
      have := UnitId.worker.inj same
      omega
    have others := crewFrom_set x rest (i + 1) j (Nat.lt_of_succ_lt_succ inside)
    unfold List.set crewFrom
    rw [next, Function.update_comm other, others]

theorem crewFrom_replicate : ∀ i count, crewFrom i (List.replicate count none) = .idle
  | _, 0 => rfl
  | i, count + 1 => by
    unfold List.replicate crewFrom
    rw [crewFrom_replicate (i + 1) count]
    exact Function.update_eq_self ..

/-! ## On a pool of workers -/

/-- What a pool makes of test cases: each of them waits, is under way or has ended. -/
structure Pool.Serves (Holds : Outcomes → Crew → World ω → Prop) (cases : List CaseDescriptor) (p : Pool)
    (w : World ω) : Prop where
  crew : Holds p.finished (crewFrom 0 p.workers) w
  waiting : ∀ q ∈ p.waiting, cases[q.1]? = some q.2
  distinct : (p.waiting.map Prod.fst).Nodup
  fresh : ∀ q ∈ p.waiting, Crew.Spares (crewFrom 0 p.workers) p.finished q.1
  complete : ∀ place < cases.length, place ∈ p.waiting.map Prod.fst ∨
    (∃ u x, crewFrom 0 p.workers u = some x ∧ x.place = place) ∨ place ∈ p.finished.map Prod.fst

variable {p : Pool}

theorem serves_start (holds : Holds [] .idle w) (workers : Nat) : (Pool.start cases workers).Serves Holds cases w where
  crew := by
    show Holds [] (crewFrom 0 (List.replicate workers none)) w
    rw [crewFrom_replicate 0]
    exact holds
  waiting q hq := by
    obtain ⟨⟨d, n⟩, listed, rfl⟩ := List.mem_map.1 hq
    exact List.mem_zipIdx_iff_getElem?.1 listed
  distinct := by
    have places : (Pool.start cases workers).waiting.map Prod.fst = List.range' 0 cases.length := by
      unfold Pool.start
      rw [List.map_map]
      exact List.zipIdx_map_snd 0 cases
    rw [places]
    exact List.nodup_range'
  fresh q _ := by
    refine ⟨fun u x busy => ?_, fun _ done => by cases done⟩
    have idle : crewFrom 0 (List.replicate workers none) u = some x := busy
    rw [crewFrom_replicate] at idle
    cases idle
  complete place inside := by
    have listed : (cases[place], place) ∈ cases.zipIdx :=
      List.mem_zipIdx_iff_getElem?.2 (List.getElem?_eq_getElem inside)
    exact .inl (List.mem_map_of_mem (List.mem_map_of_mem listed))

/-- One worker changes what it does; every test case that it leaves aside is waiting or has ended. -/
theorem Pool.Serves.turn (h : p.Serves Holds cases w) {worker : Nat} {y x : Option Running}
    (seat : p.workers[worker]? = some y) {waiting : List (Nat × CaseDescriptor)} {finished : Outcomes}
    (crew : Holds finished (Function.update (crewFrom 0 p.workers) (.worker worker) x) w₁)
    (fewer : waiting.Sublist p.waiting)
    (spares : ∀ q ∈ waiting, (∀ r, x = some r → r.place ≠ q.1) ∧ ∀ done ∈ finished, done.1 ≠ q.1)
    (waits : ∀ place ∈ p.waiting.map Prod.fst,
      place ∈ waiting.map Prod.fst ∨ ∃ r, x = some r ∧ r.place = place)
    (goes : ∀ r, y = some r → (∃ r', x = some r' ∧ r'.place = r.place) ∨ r.place ∈ finished.map Prod.fst)
    (kept : p.finished ⊆ finished) :
    Pool.Serves Holds cases ⟨waiting, p.workers.set worker x, finished⟩ w₁ := by
  obtain ⟨inside, -⟩ := List.getElem?_eq_some_iff.1 seat
  have here := crewFrom_seat seat
  have seated : crewFrom 0 (p.workers.set worker x) = Function.update (crewFrom 0 p.workers) (.worker worker) x := by
    have set := crewFrom_set x p.workers 0 worker inside
    rw [Nat.zero_add] at set
    exact set
  have itself : ∀ {place : Nat}, (∃ r, x = some r ∧ r.place = place) →
      ∃ u r, crewFrom 0 (p.workers.set worker x) u = some r ∧ r.place = place := by
    rintro place ⟨r, rfl, same⟩
    refine ⟨.worker worker, r, ?_, same⟩
    rw [seated]
    exact Function.update_self ..
  constructor
  case crew =>
    rw [seated]
    exact crew
  case waiting => exact fun q listed => h.waiting q (fewer.subset listed)
  case distinct => exact h.distinct.sublist (fewer.map _)
  case fresh =>
    refine fun q listed => ⟨fun u r busy => ?_, (spares q listed).2⟩
    dsimp only at busy
    rw [seated] at busy
    by_cases same : u = .worker worker
    · subst same
      rw [Function.update_self] at busy
      exact (spares q listed).1 r busy
    · rw [Function.update_of_ne same] at busy
      exact (h.fresh q (fewer.subset listed)).busy u r busy
  case complete =>
    -- What was waiting still is or was taken up, and what the worker did it still does or has finished.
    intro place inside
    rcases h.complete place inside with waiting | ⟨u, r, busy, rfl⟩ | done
    · exact (waits place waiting).imp_right fun taken => .inl (itself taken)
    · by_cases same : u = .worker worker
      · subst same
        exact .inr ((goes r (here.symm.trans busy)).imp_left itself)
      · refine .inr (.inl ⟨u, r, ?_, rfl⟩)
        rw [seated, Function.update_of_ne same]
        exact busy
    · exact .inr (.inr (List.map_subset Prod.fst kept done))

section

variable (hc : Crew.Attends s plan cases Holds)
include hc

theorem Pool.Serves.step (h : p.Serves Holds cases w) (worker : Nat) :
    (p.step s plan worker w).1.Serves Holds cases (p.step s plan worker w).2 := by
  unfold Pool.step
  cases seat : p.workers[worker]? with
  | none => exact h
  | some y =>
    have here := crewFrom_seat seat
    cases y with
    | none =>
      cases hw : p.waiting with
      | nil => exact h
      | cons q waiting =>
        obtain ⟨place, d⟩ := q
        have first : (place, d) ∈ p.waiting := by simp [hw]
        have fewer : waiting.Sublist p.waiting := by simp [hw]
        have places := h.distinct
        rw [hw, List.map_cons, List.nodup_cons] at places
        have begun := hc.begin h.crew (h.waiting _ first) here (h.fresh _ first)
        refine h.turn seat begun fewer (fun q listed => ⟨fun r same => ?_, (h.fresh q (fewer.subset listed)).ended⟩)
          ?_ (fun _ never => by cases never) (List.Subset.refl _)
        · -- No place waits twice, so none that still waits is the one that was taken up.
          cases same
          intro same
          obtain rfl : place = q.1 := same
          exact places.1 (List.mem_map.2 ⟨q, listed, rfl⟩)
        · rw [hw]
          exact List.forall_mem_cons.2 ⟨.inr ⟨_, rfl, rfl⟩, fun place waits => .inl waits⟩
    | some r =>
      obtain ⟨place, rest⟩ := r
      have apart : ∀ q ∈ p.waiting, place ≠ q.1 := fun q listed => (h.fresh q listed).busy _ _ here
      cases rest with
      | done r =>
        refine h.turn seat (hc.finish h.crew here) (List.Sublist.refl _)
          (fun q listed => ⟨fun _ never => (by cases never), ?_⟩) (fun _ waits => .inl waits) ?_ (List.subset_append_left _ _)
        · exact List.forall_mem_append.2 ⟨(h.fresh q listed).ended, List.forall_mem_singleton.2 (apart q listed)⟩
        · intro r same
          cases same
          exact .inr (List.mem_map_of_mem (List.mem_append_right _ (List.mem_singleton.2 rfl)))
      | call op resume =>
        refine h.turn seat (hc.act h.crew here) (List.Sublist.refl _)
          (fun q listed => ⟨fun r same => ?_, (h.fresh q listed).ended⟩) (fun _ waits => .inl waits) ?_ (List.Subset.refl _)
        · cases same
          exact apart q listed
        · intro r same
          cases same
          exact .inl ⟨_, rfl, rfl⟩

theorem Pool.Serves.schedule : ∀ (turns : List Nat) {x : Pool × World ω}, x.1.Serves Holds cases x.2 →
    (turns.foldl (fun (p, w) worker => p.step s plan worker w) x).1.Serves Holds cases
      (turns.foldl (fun (p, w) worker => p.step s plan worker w) x).2
  | [], _, h => h
  | worker :: turns, (_, _), h => schedule turns (h.step hc worker)

/-! ## What a schedule leaves -/

theorem finishRunning_attends : ∀ (workers : List (Option Running)) (i : Nat) {ended : Outcomes} {w : World ω},
    Holds ended (crewFrom i workers) w →
    Holds (ended ++ (Pool.finishRunning s workers w).1) .idle (Pool.finishRunning s workers w).2 ∧
      ∀ place, place ∈ (Pool.finishRunning s workers w).1.map Prod.fst ↔
        ∃ u x, crewFrom i workers u = some x ∧ x.place = place
  | [], _, ended, w, h => by
    refine ⟨?_, fun place => ⟨fun never => (by cases never), ?_⟩⟩
    · show Holds (ended ++ []) .idle w
      rw [List.append_nil]
      exact h
    · rintro ⟨u, x, busy, -⟩
      cases busy
  | none :: rest, i, ended, w, h => by
    have same : crewFrom i (none :: rest) = crewFrom (i + 1) rest := by
      rw [← crewFrom_leave none rest i]
      exact (Function.update_eq_self_iff.2 (Function.update_self ..).symm).symm
    rw [same] at h ⊢
    exact finishRunning_attends rest (i + 1) h
  | some ⟨place, p⟩ :: rest, i, ended, w, h => by
    have here : crewFrom i (some ⟨place, p⟩ :: rest) (.worker i) = some ⟨place, p⟩ := Function.update_self ..
    have there : ∀ {u}, u ≠ .worker i → crewFrom i (some ⟨place, p⟩ :: rest) u = crewFrom (i + 1) rest u :=
      fun other => Function.update_of_ne other _ _
    have crew := hc.run p h here
    rw [crewFrom_leave] at crew
    obtain ⟨idle, covers⟩ := finishRunning_attends rest (i + 1) crew
    rw [List.append_assoc] at idle
    refine ⟨idle, fun k => ⟨fun ran => ?_, ?_⟩⟩
    · rcases List.mem_cons.1 ran with rfl | ran
      · exact ⟨_, _, here, rfl⟩
      · obtain ⟨u, x, busy, same⟩ := (covers k).1 ran
        have other : u ≠ .worker i := by
          rintro rfl
          rw [crewFrom_before rest (Nat.lt_succ_self i)] at busy
          cases busy
        exact ⟨u, x, (there other).trans busy, same⟩
    · rintro ⟨u, x, busy, rfl⟩
      -- Whoever was busy is this worker or one of the others.
      by_cases same : u = .worker i
      · subst same
        cases here.symm.trans busy
        exact List.mem_cons_self
      · exact List.mem_cons_of_mem _ ((covers _).2 ⟨u, x, (there same).symm.trans busy, rfl⟩)

theorem finishWaiting_attends : ∀ (waiting : List (Nat × CaseDescriptor)) {ended : Outcomes} {w : World ω},
    (∀ q ∈ waiting, cases[q.1]? = some q.2) → (waiting.map Prod.fst).Nodup →
    (∀ q ∈ waiting, ∀ done ∈ ended, done.1 ≠ q.1) → Holds ended .idle w →
    Holds (ended ++ (Pool.finishWaiting s plan waiting w).1) .idle (Pool.finishWaiting s plan waiting w).2 ∧
      (Pool.finishWaiting s plan waiting w).1.map Prod.fst = waiting.map Prod.fst
  | [], ended, w, _, _, _, idle => by
    refine ⟨?_, rfl⟩
    show Holds (ended ++ []) .idle w
    rw [List.append_nil]
    exact idle
  | (place, d) :: rest, ended, w, listed, distinct, fresh, idle => by
    obtain ⟨here, others⟩ := List.forall_mem_cons.1 listed
    obtain ⟨alone, distinct⟩ := List.nodup_cons.1 distinct
    obtain ⟨unbegun, fresh⟩ := List.forall_mem_cons.1 fresh
    have ran := hc.runAlone idle here unbegun (.worker 0)
    have later : ∀ q ∈ rest, place ≠ q.1 := by
      rintro q waits rfl
      exact alone (List.mem_map.2 ⟨q, waits, rfl⟩)
    obtain ⟨idle, places⟩ := finishWaiting_attends rest others distinct
      (fun q waits => List.forall_mem_append.2 ⟨fresh q waits, List.forall_mem_singleton.2 (later q waits)⟩) ran
    rw [List.append_assoc] at idle
    exact ⟨idle, congrArg (place :: ·) places⟩

theorem attends_outcomes (idle : Holds [] .idle w) (workers : Nat) (schedule : List Nat) :
    Holds (Pool.outcomes s plan cases workers schedule w).1 .idle (Pool.outcomes s plan cases workers schedule w).2 ∧
      ∀ place < cases.length, place ∈ (Pool.outcomes s plan cases workers schedule w).1.map Prod.fst := by
  have left := Pool.Serves.schedule hc schedule (x := (Pool.start cases workers, w)) (serves_start idle workers)
  unfold Pool.outcomes
  cases turned : schedule.foldl (fun (p, w) worker => p.step s plan worker w) (Pool.start cases workers, w) with
  | mk p w₁ =>
  rw [turned] at left
  obtain ⟨idle, covers⟩ := finishRunning_attends hc p.workers 0 left.crew
  have fresh : ∀ q ∈ p.waiting, ∀ done ∈ p.finished ++ (Pool.finishRunning s p.workers w₁).1, done.1 ≠ q.1 := by
    intro q waits done mem same
    rcases List.mem_append.1 mem with early | amid
    · exact (left.fresh q waits).ended done early same
    · obtain ⟨u, x, busy, place⟩ := (covers done.1).1 (List.mem_map_of_mem amid)
      exact (left.fresh q waits).busy u x busy (place.trans same)
  obtain ⟨idle, places⟩ := finishWaiting_attends hc p.waiting left.waiting left.distinct fresh idle
  refine ⟨idle, fun place inside => ?_⟩
  rw [List.map_append, List.map_append, places, List.mem_append, List.mem_append]
  rcases left.complete place inside with waits | busy | done
  · exact .inr waits
  · exact .inl (.inr ((covers place).2 busy))
  · exact .inl (.inl done)

end

/-! ## All test cases of a suite -/

/-- What the test cases at some places come to which have ended: their results in order, or the fault of one. -/
def Gathers (ended : Outcomes) (places : List Nat) : Except Fault (List CaseResult) → Prop
  | .ok results => List.Forall₂ (fun place result => (place, .ok result) ∈ ended) places results
  | .error fault => ∃ place, (place, .error fault) ∈ ended

theorem gathers_collect {count : Nat} (complete : ∀ place < count, place ∈ ended.map Prod.fst) :
    Gathers ended (List.range count) (Pool.collect ended count) := by
  suffices among : ∀ places : List Nat, (∀ place ∈ places, place < count) →
      Gathers ended places ((places.filterMap fun place => ended.lookup place).mapM id) from
    among _ fun _ => List.mem_range.1
  intro places
  induction places with
  | nil => exact fun _ => .nil
  | cons i rest ih =>
    intro inside
    obtain ⟨here, later⟩ := List.forall_mem_cons.1 inside
    have others := ih later
    obtain ⟨r, found⟩ : ∃ r, ended.lookup i = some r := by
      cases found : ended.lookup i with
      | some r => exact ⟨r, rfl⟩
      | none =>
        obtain ⟨q, mem, same⟩ := List.mem_map.1 (complete i here)
        have other := List.lookup_eq_none_iff.1 found q mem
        rw [same, bne_self_eq_false] at other
        cases other
    obtain ⟨before, after, split, -⟩ := List.lookup_eq_some_iff.1 found
    have mem : (i, r) ∈ ended := by rw [split]; simp
    rw [List.filterMap_cons_some (f := fun place => ended.lookup place) found, List.mapM_cons]
    cases r with
    | error fault => exact ⟨i, mem⟩
    | ok result =>
      generalize (rest.filterMap fun place => ended.lookup place).mapM id = r at others ⊢
      cases r with
      | error fault => exact others
      | ok results => exact .cons mem others

/-- The results of all test cases are those of the test cases in order. -/
theorem Gathers.forall₂ {results : List CaseResult} (gathers : Gathers ended (List.range cases.length) (.ok results)) :
    List.Forall₂ (fun d result => ∃ place, cases[place]? = some d ∧ (place, .ok result) ∈ ended) cases results := by
  suffices from_ : ∀ (rest : List CaseDescriptor) (i : Nat) (results : List CaseResult),
      (∀ j d, rest[j]? = some d → cases[i + j]? = some d) →
      List.Forall₂ (fun place result => (place, .ok result) ∈ ended) (List.range' i rest.length) results →
      List.Forall₂ (fun d result => ∃ place, cases[place]? = some d ∧ (place, .ok result) ∈ ended) rest results by
    refine from_ cases 0 results (fun j d found => by rw [Nat.zero_add]; exact found) ?_
    rw [← List.range_eq_range']
    exact gathers
  intro rest
  induction rest with
  | nil =>
    intro i results _ gathers
    cases gathers
    exact .nil
  | cons d rest ih =>
    intro i results listed gathers
    rw [List.length_cons, List.range'_succ] at gathers
    cases gathers with
    | cons here others =>
      refine .cons ⟨i, listed 0 d rfl, here⟩ (ih (i + 1) _ (fun j d found => ?_) others)
      rw [Nat.add_right_comm i 1 j]
      exact listed (j + 1) d found

section

variable (hc : Crew.Attends s plan cases Holds)
include hc

theorem runEach_gathers : ∀ (rest : List CaseDescriptor) (i : Nat) {ended : Outcomes} {w : World ω},
    (∀ j d, rest[j]? = some d → cases[i + j]? = some d) → (∀ q ∈ ended, q.1 < i) → Holds ended .idle w →
    ∃ more, Holds (ended ++ more) .idle ((s.runEach plan rest).run w).2 ∧
      Gathers (ended ++ more) (List.range' i rest.length) ((s.runEach plan rest).run w).1
  | [], _, ended, w, _, _, idle => by
    refine ⟨[], ?_, .nil⟩
    rw [List.append_nil]
    exact idle
  | d :: rest, i, ended, w, listed, before, idle => by
    have here : cases[i]? = some d := listed 0 d rfl
    have ran := hc.runAlone idle here (fun q done => Nat.ne_of_lt (before q done)) .calling
    have performed : (s.perform (d.run plan .calling)).run w =
        (((Pool.program plan d .calling).run s.handle w).1, ((Pool.program plan d .calling).run s.handle w).2) := rfl
    unfold Surroundings.runEach
    rw [Act.run_bind, performed]
    cases came : ((Pool.program plan d .calling).run s.handle w).1 with
    | error fault =>
      rw [came] at ran
      exact ⟨_, ran, i, List.mem_append_right _ (List.mem_singleton.2 rfl)⟩
    | ok result =>
      rw [came] at ran
      -- the rest of the list starts one place further, with one outcome more behind it
      have before : ∀ q ∈ ended ++ [(i, .ok result)], q.1 < i + 1 :=
        List.forall_mem_append.2 ⟨fun q done => Nat.lt_succ_of_lt (before q done),
          List.forall_mem_singleton.2 (Nat.lt_succ_self i)⟩
      obtain ⟨more, idle, others⟩ := runEach_gathers rest (i + 1)
        (fun j d found => by rw [Nat.add_right_comm i 1 j]; exact listed (j + 1) d found) before ran
      rw [List.append_assoc] at idle others
      refine ⟨(i, .ok result) :: more, ?_⟩
      dsimp only
      rw [Act.run_bind]
      rcases run : (s.runEach plan rest).run ((Pool.program plan d .calling).run s.handle w).2 with ⟨fault | results, w'⟩ <;>
        rw [run] at idle others
      · exact ⟨idle, others⟩
      · exact ⟨idle, .cons (List.mem_append_right _ List.mem_cons_self) others⟩

theorem runPool_gathers (idle : Holds [] .idle w) (workers : Nat) (schedule : List Nat) :
    ∃ ended, Holds ended .idle ((s.runPool plan cases workers schedule).run w).2 ∧
      Gathers ended (List.range cases.length) ((s.runPool plan cases workers schedule).run w).1 := by
  obtain ⟨left, complete⟩ := attends_outcomes hc idle workers schedule
  have runs : (s.runPool plan cases workers schedule).run w =
      (Pool.collect (Pool.outcomes s plan cases workers schedule w).1 cases.length,
        (Pool.outcomes s plan cases workers schedule w).2) := by
    unfold Surroundings.runPool
    rw [Act.run_bind]
    exact Act.run_ofExcept _ _
  rw [runs]
  exact ⟨_, left, gathers_collect complete⟩

/-- The test cases of a suite end one by one, and the suite comes to what they came to. -/
theorem Crew.Attends.runAll (idle : Holds [] .idle w) (schedule : List Nat) :
    ∃ ended, Holds ended .idle ((s.runAll plan cases schedule).run w).2 ∧
      Gathers ended (List.range cases.length) ((s.runAll plan cases schedule).run w).1 := by
  unfold Surroundings.runAll
  dsimp only
  split
  · obtain ⟨more, left, gathers⟩ := runEach_gathers hc cases 0 (fun j d found => by rw [Nat.zero_add]; exact found)
      (fun _ done => by cases done) idle
    rw [← List.range_eq_range'] at gathers
    exact ⟨more, left, gathers⟩
  · rw [Act.run_bind, SessionBackend.run_note]
    exact runPool_gathers hc (hc.note idle) _ schedule

end

/-! ## What the runs of test cases come to -/

section

variable (s plan)

/-- What the runs of test cases come to one after another on the calling unit. -/
def eachOutcome : List CaseDescriptor → World ω → List (Except Fault CaseResult)
  | [], _ => []
  | d :: rest, w =>
    let (outcome, w) := (s.perform (d.run plan .calling)).run w
    outcome :: eachOutcome rest w

/-- What the runs of all test cases come to, in the order of the test cases. -/
def caseOutcomes (cases : List CaseDescriptor) (schedule : List Nat) (w : World ω) : List (Except Fault CaseResult) :=
  let workers := Surroundings.workerCount plan cases.length
  if workers ≤ 1 then eachOutcome s plan cases w
  else
    let w := s.logged .info ("Running test cases on " ++ toString workers ++ " worker threads") w
    (List.range cases.length).filterMap fun place =>
      (Pool.outcomes s plan cases workers schedule w).1.lookup place

end

theorem eq_map_ok_of_mapM {outcomes : List (Except Fault CaseResult)} : ∀ {results : List CaseResult},
    outcomes.mapM id = .ok results → outcomes = results.map .ok := by
  induction outcomes with
  | nil =>
    intro results same
    cases same
    rfl
  | cons r rest ih =>
    intro results same
    rw [List.mapM_cons] at same
    cases r with
    | error fault => cases same
    | ok result =>
      cases others : rest.mapM id with
      | error fault =>
        rw [others] at same
        cases same
      | ok results' =>
        rw [others] at same
        cases same
        rw [ih others]
        rfl

theorem eachOutcome_of_runEach : ∀ {rest : List CaseDescriptor} {results : List CaseResult} {w w' : World ω},
    (s.runEach plan rest).run w = (.ok results, w') → eachOutcome s plan rest w = results.map .ok
  | [], _, _, _, runs => by
    cases runs
    rfl
  | d :: rest, results, w, w', runs => by
    unfold Surroundings.runEach at runs
    obtain ⟨result, w₁, ran, runs⟩ := Act.exists_of_run_bind runs
    obtain ⟨others, w₂, went, runs⟩ := Act.exists_of_run_bind runs
    cases runs
    unfold eachOutcome
    rw [ran]
    dsimp only
    rw [eachOutcome_of_runEach went, List.map_cons]

theorem caseOutcomes_of_runAll {schedule : List Nat} {results : List CaseResult}
    (runs : (s.runAll plan cases schedule).run w = (.ok results, w₁)) :
    caseOutcomes s plan cases schedule w = results.map .ok := by
  unfold Surroundings.runAll at runs
  unfold caseOutcomes
  dsimp only at runs ⊢
  split at runs
  · rename_i one
    rw [if_pos one]
    exact eachOutcome_of_runEach runs
  · rename_i many
    rw [if_neg many]
    rw [Act.run_bind, SessionBackend.run_note] at runs
    dsimp only at runs
    unfold Surroundings.runPool at runs
    obtain ⟨outcomes, w₂, made, runs⟩ := Act.exists_of_run_bind runs
    cases made
    rw [Act.run_ofExcept] at runs
    exact eq_map_ok_of_mapM (congrArg Prod.fst runs)

/-! ## Outcomes that are settled one by one -/

/-- What the steps of a crew uphold, and how a test case that has ended is settled. -/
structure Crew.Upholds (s : Surroundings ω) (plan : SuitePlan) (cases : List CaseDescriptor)
    (Holds : Crew → World ω → Prop) (Settles : CaseDescriptor → Except Fault CaseResult → Prop) : Prop where
  begin : ∀ {crew w place d u}, Holds crew w → cases[place]? = some d → crew u = none →
    Holds (Function.update crew u (some ⟨place, Pool.program plan d u⟩)) w
  act : ∀ {crew w u place op resume}, Holds crew w → crew u = some ⟨place, .call op resume⟩ →
    Holds (Function.update crew u (some ⟨place, resume ((s.handle op).run w).1⟩)) ((s.handle op).run w).2
  finish : ∀ {crew w u place r}, Holds crew w → crew u = some ⟨place, .done r⟩ →
    (∃ d, cases[place]? = some d ∧ Settles d r) ∧ Holds (Function.update crew u none) w
  note : ∀ {w level message}, Holds .idle w → Holds .idle ((s.note level message).run w).2
  completes : ∀ {d r}, Settles d r → ∃ result, r = .ok result

/-- Results that test cases have settled for, one by one. -/
abbrev SettledFor (Settles : CaseDescriptor → Except Fault CaseResult → Prop) (cases : List CaseDescriptor)
    (results : List CaseResult) : Prop :=
  List.Forall₂ (fun d result => Settles d (.ok result)) cases results

namespace Crew.Upholds

variable {Holds : Crew → World ω → Prop} {Settles : CaseDescriptor → Except Fault CaseResult → Prop}
  (h : Crew.Upholds s plan cases Holds Settles)
include h

theorem attends : Crew.Attends s plan cases fun ended crew w =>
    Holds crew w ∧ ∀ q ∈ ended, ∃ d, cases[q.1]? = some d ∧ Settles d q.2 where
  begin holds listed free _ := ⟨h.begin holds.1 listed free, holds.2⟩
  act holds here := ⟨h.act holds.1 here, holds.2⟩
  finish holds here := by
    obtain ⟨settles, left⟩ := h.finish holds.1 here
    exact ⟨left, List.forall_mem_append.2 ⟨holds.2, List.forall_mem_singleton.2 settles⟩⟩
  note holds := ⟨h.note holds.1, fun _ never => by cases never⟩

/-- All test cases of a suite come to results that they settle for, in their order. -/
theorem runAll (idle : Holds .idle w) (schedule : List Nat) :
    ∃ results w', (s.runAll plan cases schedule).run w = (.ok results, w') ∧
      caseOutcomes s plan cases schedule w = results.map .ok ∧ Holds .idle w' ∧
      SettledFor Settles cases results := by
  obtain ⟨ended, ⟨left, settled⟩, gathers⟩ := h.attends.runAll ⟨idle, fun _ never => by cases never⟩ schedule
  rcases runs : (s.runAll plan cases schedule).run w with ⟨fault | results, w'⟩ <;> rw [runs] at left gathers
  · obtain ⟨place, failed⟩ := gathers
    obtain ⟨d, -, settles⟩ := settled _ failed
    obtain ⟨result, ended⟩ := h.completes settles
    cases ended
  · refine ⟨results, w', rfl, caseOutcomes_of_runAll runs, left, gathers.forall₂.imp fun d result told => ?_⟩
    obtain ⟨place, listed, ended⟩ := told
    obtain ⟨d', listed', settles⟩ := settled _ ended
    cases listed.symm.trans listed'
    exact settles

end Crew.Upholds

end KeywordSuite
