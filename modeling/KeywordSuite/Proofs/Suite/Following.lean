import KeywordSuite.Proofs.Case.Isolation
import KeywordSuite.Proofs.Suite.Agreement

/-!
# Suites that follow each other

Two suites whose test cases do alike come to summaries that are alike, in surroundings that answer alike
whatever either of them logs or tells aside. On a pool what is done aside takes turns, so the other suite has a
schedule of its own: each turn of the one is followed by as many turns of the same worker as it takes.
-/

namespace KeywordSuite

/-! ## Outcomes that agree -/

/-- Related values, or the same fault. -/
inductive Agreed {α β : Type} (V : α → β → Prop) : Except Fault α → Except Fault β → Prop
  | ok {a : α} {b : β} : V a b → Agreed V (.ok a) (.ok b)
  | error (fault : Fault) : Agreed V (.error fault) (.error fault)

section

variable {α β : Type} {V : α → β → Prop}

theorem agreed_refl (r : Except Fault α) : Agreed Eq r r := by
  cases r with
  | ok a => exact .ok rfl
  | error fault => exact .error fault

theorem Matched.agreed {r : Except Fault α} {r' : Except Fault β} (h : Matched False V r r') : Agreed V r r' := by
  cases h with
  | ok related => exact .ok related
  | error never _ => exact never.elim

theorem agreed_all {l : List (Except Fault α)} {l' : List (Except Fault β)} (h : List.Forall₂ (Agreed V) l l') :
    Agreed (List.Forall₂ V) (l.mapM id) (l'.mapM id) := by
  induction h with
  | nil => exact .ok .nil
  | @cons _ _ rest rest' first _ ih =>
    rw [List.mapM_cons, List.mapM_cons]
    generalize rest.mapM id = outcome, rest'.mapM id = outcome' at ih
    cases first with
    | error fault => exact .error fault
    | ok related =>
      cases ih with
      | error fault => exact .error fault
      | ok others => exact .ok (.cons related others)

end

section

variable {α β : Type} {S : α → β → Prop}

theorem forall₂_getElem? {l : List α} {l' : List β} (h : List.Forall₂ S l l') :
    ∀ i : Nat, Option.Rel S l[i]? l'[i]? := by
  induction h with
  | nil => exact fun _ => .none
  | cons first _ ih =>
    intro i
    cases i with
    | zero => exact .some first
    | succ i => exact ih i

theorem forall₂_set {l : List α} {l' : List β} (h : List.Forall₂ S l l') {x : α} {y : β} (related : S x y) :
    ∀ i, List.Forall₂ S (l.set i x) (l'.set i y) := by
  induction h with
  | nil => exact fun _ => .nil
  | cons first others ih =>
    intro i
    cases i with
    | zero => exact .cons related others
    | succ i => exact .cons first (ih i)

theorem forall₂_lookup {l : List (Nat × α)} {l' : List (Nat × β)}
    (h : List.Forall₂ (fun x y => x.1 = y.1 ∧ S x.2 y.2) l l') (place : Nat) :
    Option.Rel S (l.lookup place) (l'.lookup place) := by
  induction h with
  | nil => exact .none
  | @cons x y _ _ first _ ih =>
    obtain ⟨n, a⟩ := x
    obtain ⟨_, b⟩ := y
    obtain ⟨rfl, related⟩ := first
    rw [List.lookup_cons, List.lookup_cons]
    cases place == n with
    | true => exact .some related
    | false => exact ih

end

/-! ## Summaries -/

/-- Summaries of results that are related one by one, with related times. -/
structure SuiteSummary.Rel (V : CaseResult → CaseResult → Prop) (T : Timestamp → Timestamp → Prop)
    (x y : SuiteSummary) : Prop where
  total : x.total = y.total
  passed : x.passed = y.passed
  failed : x.failed = y.failed
  startedAt : T x.startedAt y.startedAt
  completedAt : Option.Rel T x.completedAt y.completedAt
  results : List.Forall₂ V x.results y.results

theorem SuiteSummary.Rel.eq {x y : SuiteSummary} (h : SuiteSummary.Rel Eq Eq x y) : x = y := by
  have completedAt : x.completedAt = y.completedAt := by
    have completedAt := h.completedAt
    generalize x.completedAt = a, y.completedAt = b at completedAt
    cases completedAt with
    | none => rfl
    | some same => exact congrArg some same
  have results : x.results = y.results := by
    have results := h.results
    rwa [List.forall₂_eq_eq_eq] at results
  obtain ⟨total, passed, failed, startedAt, -, -⟩ := h
  cases x
  cases y
  simp_all

theorem countP_passed {V : CaseResult → CaseResult → Prop} (passed : ∀ r r', V r r' → r.passed = r'.passed)
    {l l' : List CaseResult} (h : List.Forall₂ V l l') : l.countP CaseResult.passed = l'.countP CaseResult.passed := by
  induction h with
  | nil => rfl
  | cons first _ ih => rw [List.countP_cons, List.countP_cons, passed _ _ first, ih]

theorem SuiteSummary.rel_ofResults {V : CaseResult → CaseResult → Prop} {T : Timestamp → Timestamp → Prop}
    (passed : ∀ r r', V r r' → r.passed = r'.passed) {l l' : List CaseResult} (h : List.Forall₂ V l l')
    {startedAt startedAt' completedAt completedAt' : Timestamp} (started : T startedAt startedAt')
    (completed : T completedAt completedAt') :
    SuiteSummary.Rel V T (.ofResults l startedAt completedAt) (.ofResults l' startedAt' completedAt') := by
  have total : (l.length : Int) = l'.length := congrArg _ h.length_eq
  have count := congrArg (Nat.cast (R := Int)) (countP_passed passed h)
  exact ⟨total, count, by unfold ofResults; dsimp only; rw [total, count], started, .some completed, h⟩

/-! ## Test cases that do alike -/

/--
A way of comparing test cases: what they do together on a unit at each stage, and the likeness of the results
and times that they come to. What they do aside is theirs.
-/
structure Kinship (κ : Type) where
  together : UnitId → κ → (op op' : SharedOp) → (Except Fault op.Reply → Except Fault op'.Reply → κ → Prop) → Prop
  first : κ
  results : CaseResult → CaseResult → Prop
  times : Timestamp → Timestamp → Prop

section

variable {κ : Type} (K : Kinship κ)

namespace Kinship

def coupling (u : UnitId) : Coupling SharedOp.Reply κ := ⟨SharedOp.IsAside, SharedOp.AsideReply, K.together u⟩

/-- From a stage on, test cases do alike and come to results that are alike. -/
def Akin (u : UnitId) (k : κ) (p q : Program SharedOp.Reply (Except Fault CaseResult)) : Prop :=
  Coupled (K.coupling u) (fun _ => Agreed K.results) k p q

/-- Outcomes of test cases by place that are alike. -/
def Outcomes : List (Nat × Except Fault CaseResult) → List (Nat × Except Fault CaseResult) → Prop :=
  List.Forall₂ fun x y => x.1 = y.1 ∧ Agreed K.results x.2 y.2

end Kinship

/-- Every test case does alike under both plans. -/
def SuitePlan.Akin (plan plan' : SuitePlan) : Prop :=
  ∀ d u, K.Akin u K.first (Pool.program plan d u) (Pool.program plan' d u)

end

theorem alone_coupling {κ α : Type} {K : Kinship κ} {u : UnitId} {p : SharedProcedure α}
    (h : Alone (tandem .calling .calling) p) : Alone (K.coupling u) p := h

/-! ## Surroundings beside each other -/

variable {ω ω' κ : Type} {K : Kinship κ} {R : ω → ω' → Prop} {met : κ → World ω → World ω' → Prop}
  {s : Surroundings ω} {t : Surroundings ω'}

/-- Whatever either logs or tells leaves their states related, and ends in no interruption. -/
structure Surroundings.Indifferent (R : ω → ω' → Prop) (s : Surroundings ω) (t : Surroundings ω') : Prop where
  left : ∀ (op : SharedOp), op.IsAside → ∀ w w', World.Related R w w' →
    op.AsideReply ((s.handle op).run w).1 ∧ World.Related R ((s.handle op).run w).2 w'
  right : ∀ (op : SharedOp), op.IsAside → ∀ w w', World.Related R w w' →
    op.AsideReply ((t.handle op).run w').1 ∧ World.Related R w ((t.handle op).run w').2

/--
Surroundings that answer alike what test cases do together. `met` says what has to be true of two worlds for
test cases to be at a stage there; whatever is done after that keeps it.
-/
structure Surroundings.Beside (K : Kinship κ) (R : ω → ω' → Prop) (met : κ → World ω → World ω' → Prop)
    (s : Surroundings ω) (t : Surroundings ω') : Prop
    extends backend : SessionBackend.Agree R s.toSessionBackend t.toSessionBackend, Indifferent R s t where
  passed : ∀ r r', K.results r r' → r.passed = r'.passed
  clock : ∀ u k, Coupled (K.coupling u) (fun _ => Agreed K.times) k (ExceptT.run (SharedProcedure.perform .now))
    (ExceptT.run (SharedProcedure.perform .now))
  listActive : Act.Agree R s.source.listActive t.source.listActive
  together : ∀ {u k op op' answers}, K.together u k op op' answers → ∀ {w w'}, met k w w' → World.Related R w w' →
    ∃ k', answers ((s.handle op).run w).1 ((t.handle op').run w').1 k' ∧
      met k' ((s.handle op).run w).2 ((t.handle op').run w').2 ∧
      World.Related R ((s.handle op).run w).2 ((t.handle op').run w').2
  first : ∀ w w', met K.first w w'
  later : ∀ {k w w' w₁ w₁'}, met k w w' → s.Later w w₁ → t.Later w' w₁' → met k w₁ w₁'

section

variable {α β : Type} {post : κ → α → β → Prop} {p : Program SharedOp.Reply α} {q : Program SharedOp.Reply β}

theorem Surroundings.Beside.run (h : s.Beside K R met t) {u : UnitId} {k : κ}
    (coupled : Coupled (K.coupling u) post k p q) :
    ∀ {w : World ω} {w' : World ω'}, met k w w' → World.Related R w w' →
      (∃ k', post k' (p.run s.handle w).1 (q.run t.handle w').1) ∧
        World.Related R (p.run s.handle w).2 (q.run t.handle w').2 := by
  induction coupled with
  | done ended => exact fun _ related => ⟨⟨_, ended⟩, related⟩
  | left aside _ ih =>
    intro w w' meets related
    obtain ⟨replied, related⟩ := h.left _ aside w w' related
    exact ih _ replied (h.later meets (.step _ .refl) .refl) related
  | right aside _ ih =>
    intro w w' meets related
    obtain ⟨replied, related⟩ := h.right _ aside w w' related
    exact ih _ replied (h.later meets .refl (.step _ .refl)) related
  | both together _ ih =>
    intro w w' meets related
    obtain ⟨k', replied, meets, related⟩ := h.together together meets related
    exact ih _ _ k' replied meets related

end

/-! ## Turns on a pool -/

/-- What turns of workers make of a pool and a world. -/
def Pool.after (s : Surroundings ω) (plan : SuitePlan) (turns : List Nat) (x : Pool × World ω) : Pool × World ω :=
  turns.foldl (fun (p, w) worker => p.step s plan worker w) x

section

variable {plan : SuitePlan} {p : Pool} {worker place : Nat} {w : World ω}

theorem Pool.step_call {op : SharedOp}
    {resume : Except Fault op.Reply → Program SharedOp.Reply (Except Fault CaseResult)}
    (seat : p.workers[worker]? = some (some ⟨place, .call op resume⟩)) :
    p.step s plan worker w = ({ p with
      workers := p.workers.set worker (some ⟨place, resume ((s.handle op).run w).1⟩) }, ((s.handle op).run w).2) := by
  unfold Pool.step
  rw [seat]

theorem Pool.step_done {r : Except Fault CaseResult} (seat : p.workers[worker]? = some (some ⟨place, .done r⟩)) :
    p.step s plan worker w = ({ p with
      workers := p.workers.set worker none
      finished := p.finished ++ [(place, r)] }, w) := by
  unfold Pool.step
  rw [seat]

theorem Pool.step_begin {d : CaseDescriptor} {waiting : List (Nat × CaseDescriptor)}
    (seat : p.workers[worker]? = some none) (next : p.waiting = (place, d) :: waiting) :
    p.step s plan worker w = ({ p with
      waiting := waiting
      workers := p.workers.set worker (some ⟨place, Pool.program plan d (.worker worker)⟩) }, w) := by
  unfold Pool.step
  rw [seat, next]

theorem Pool.step_idle (seat : p.workers[worker]? = some none) (none : p.waiting = []) :
    p.step s plan worker w = (p, w) := by
  unfold Pool.step
  rw [seat, none]

theorem Pool.step_nobody (seat : p.workers[worker]? = none) : p.step s plan worker w = (p, w) := by
  unfold Pool.step
  rw [seat]

theorem Pool.seat_set {x y : Option Running} (seat : p.workers[worker]? = some x) :
    (p.workers.set worker y)[worker]? = some y := by
  obtain ⟨inside, -⟩ := List.getElem?_eq_some_iff.1 seat
  exact List.getElem?_set_self inside

theorem Pool.set_seat {x : Option Running} (seat : p.workers[worker]? = some x) : p.workers.set worker x = p.workers := by
  obtain ⟨inside, rfl⟩ := List.getElem?_eq_some_iff.1 seat
  exact List.set_getElem_self inside

end

/-! ## Pools that do alike -/

section

variable (K met)

/-- Test cases under way at the same place, with alike things left to do. -/
def Running.Akin (w : World ω) (w' : World ω') (x y : Running) : Prop :=
  x.place = y.place ∧ ∃ u k, met k w w' ∧ K.Akin u k x.rest y.rest

def Seats (w : World ω) (w' : World ω') : List (Option Running) → List (Option Running) → Prop :=
  List.Forall₂ (Option.Rel (Running.Akin K met w w'))

structure Pool.Akin (w : World ω) (w' : World ω') (p q : Pool) : Prop where
  waiting : p.waiting = q.waiting
  workers : Seats K met w w' p.workers q.workers
  finished : K.Outcomes p.finished q.finished

variable (R)

/-- Pools that do alike, in related worlds. -/
def Level (x : Pool × World ω) (y : Pool × World ω') : Prop :=
  x.1.Akin K met x.2 y.2 y.1 ∧ World.Related R x.2 y.2

end

section

variable {plan plan' : SuitePlan} {p q : Pool} {worker place : Nat} {w w₁ : World ω} {w' w₁' : World ω'} {u : UnitId}
  {k : κ} {rest rest' : Program SharedOp.Reply (Except Fault CaseResult)} {workers workers' : List (Option Running)}
  (h : s.Beside K R met t)
include h

theorem Surroundings.Beside.seats (seats : Seats K met w w' workers workers') (left : s.Later w w₁)
    (right : t.Later w' w₁') : Seats K met w₁ w₁' workers workers' := by
  refine List.Forall₂.imp (fun x y seat => ?_) seats
  cases seat with
  | none => exact .none
  | some same =>
    obtain ⟨place, u, k, meets, akin⟩ := same
    exact .some ⟨place, u, k, h.later meets left right, akin⟩

/-- After both worlds have gone on, a worker is at a stage there. -/
theorem Surroundings.Beside.seated (seats : Seats K met w w' workers workers') (left : s.Later w w₁)
    (right : t.Later w' w₁') (meets : met k w₁ w₁') (akin : K.Akin u k rest rest') (worker place : Nat) :
    Seats K met w₁ w₁' (workers.set worker (some ⟨place, rest⟩)) (workers'.set worker (some ⟨place, rest'⟩)) := by
  have here : Running.Akin K met w₁ w₁' ⟨place, rest⟩ ⟨place, rest'⟩ := ⟨rfl, u, k, meets, akin⟩
  exact forall₂_set (h.seats seats left right) (.some here) worker

/-- A worker's turn is followed by turns of the same worker, until it has done alike. -/
theorem Surroundings.Beside.busy (akin : K.Akin u k rest rest') :
    ∀ {q : Pool} {w' : World ω'}, met k w w' → p.Akin K met w w' q → World.Related R w w' →
      p.workers[worker]? = some (some ⟨place, rest⟩) → q.workers[worker]? = some (some ⟨place, rest'⟩) →
      ∃ turns, Level K R met (p.step s plan worker w) (Pool.after t plan' turns (q, w')) := by
  unfold Kinship.Akin at akin
  -- By induction on what both have left to do: the other worker first does what it does aside, one turn each.
  induction akin with
  | @done k r r' same =>
    intro q w' _ pools related seat seat'
    refine ⟨[worker], ?_⟩
    show Level K R met _ (q.step t plan' worker w')
    rw [Pool.step_done seat, Pool.step_done seat']
    have last : K.Outcomes [(place, r)] [(place, r')] := .cons ⟨rfl, same⟩ .nil
    exact ⟨⟨pools.waiting, forall₂_set pools.workers .none worker, List.rel_append pools.finished last⟩, related⟩
  | @left k op resume rest' aside akin _ =>
    intro q w' meets pools related seat seat'
    obtain ⟨replied, related⟩ := h.left op aside w w' related
    have meets := h.later meets (.step op .refl) .refl
    have seats := h.seated pools.workers (.step op .refl) .refl meets (akin _ replied) worker place
    rw [Pool.set_seat seat'] at seats
    refine ⟨[], ?_⟩
    show Level K R met _ (q, w')
    rw [Pool.step_call seat]
    exact ⟨⟨pools.waiting, seats, pools.finished⟩, related⟩
  | @right k op rest resume aside akin ih =>
    intro q w' meets pools related seat seat'
    obtain ⟨replied, related⟩ := h.right op aside w w' related
    have meets := h.later meets .refl (.step op .refl)
    have seats := h.seated pools.workers .refl (.step op .refl) meets (akin _ replied) worker place
    rw [Pool.set_seat seat] at seats
    let next : Pool := { q with workers := q.workers.set worker (some ⟨place, resume ((t.handle op).run w').1⟩) }
    have pools : p.Akin K met w _ next := ⟨pools.waiting, seats, pools.finished⟩
    obtain ⟨turns, level⟩ := ih _ replied meets pools related seat (Pool.seat_set seat')
    refine ⟨worker :: turns, ?_⟩
    show Level K R met _ (Pool.after t plan' turns (q.step t plan' worker w'))
    rw [Pool.step_call seat']
    exact level
  | @both k op op' answers resume resume' together akin _ =>
    intro q w' meets pools related seat seat'
    obtain ⟨k', replied, meets, related⟩ := h.together together meets related
    have seats := h.seated pools.workers (.step op .refl) (.step op' .refl) meets (akin _ _ k' replied) worker place
    refine ⟨[worker], ?_⟩
    show Level K R met _ (q.step t plan' worker w')
    rw [Pool.step_call seat, Pool.step_call seat']
    exact ⟨⟨pools.waiting, seats, pools.finished⟩, related⟩

theorem Surroundings.Beside.finishRunning : ∀ (workers : List (Option Running)) {workers' : List (Option Running)}
    {w : World ω} {w' : World ω'}, Seats K met w w' workers workers' → World.Related R w w' →
      K.Outcomes (Pool.finishRunning s workers w).1 (Pool.finishRunning t workers' w').1 ∧
        World.Related R (Pool.finishRunning s workers w).2 (Pool.finishRunning t workers' w').2
  | [], _, _, _, seats, related => by
    cases seats
    exact ⟨.nil, related⟩
  | x :: rest, _, w, w', seats, related => by
    cases seats with
    | cons first others =>
      cases first with
      | none =>
        have others := finishRunning rest others related
        exact others
      | @some x y same =>
        obtain ⟨place, u, k, meets, akin⟩ := same
        obtain ⟨⟨_, outcome⟩, related⟩ := h.run akin meets related
        obtain ⟨others, related⟩ := finishRunning rest
          (h.seats others (Surroundings.Later.refl.run x.rest) (Surroundings.Later.refl.run y.rest)) related
        exact ⟨.cons ⟨place, outcome⟩ others, related⟩

variable (plans : plan.Akin K plan')
include plans

theorem Surroundings.Beside.finishWaiting : ∀ (waiting : List (Nat × CaseDescriptor)) {w : World ω} {w' : World ω'},
    World.Related R w w' →
    K.Outcomes (Pool.finishWaiting s plan waiting w).1 (Pool.finishWaiting t plan' waiting w').1 ∧
      World.Related R (Pool.finishWaiting s plan waiting w).2 (Pool.finishWaiting t plan' waiting w').2
  | [], _, _, related => ⟨.nil, related⟩
  | (place, d) :: rest, w, w', related => by
    obtain ⟨⟨_, outcome⟩, related⟩ := h.run (plans d (.worker 0)) (h.first w w') related
    obtain ⟨others, related⟩ := finishWaiting rest related
    exact ⟨.cons ⟨rfl, outcome⟩ others, related⟩

theorem Level.turn {x : Pool × World ω} {y : Pool × World ω'} (level : Level K R met x y) (worker : Nat) :
    ∃ turns, Level K R met (x.1.step s plan worker x.2) (Pool.after t plan' turns y) := by
  obtain ⟨p, w⟩ := x
  obtain ⟨q, w'⟩ := y
  obtain ⟨pools, related⟩ := level
  -- The seats of the two pools are related one by one, so both workers are busy, both idle, or neither is there.
  have seats := forall₂_getElem? pools.workers worker
  cases seat : p.workers[worker]? with
  | none =>
    refine ⟨[], ?_⟩
    rw [Pool.step_nobody seat]
    exact ⟨pools, related⟩
  | some doing =>
    cases seat' : q.workers[worker]? with
    | none =>
      rw [seat, seat'] at seats
      cases seats
    | some doing' =>
      rw [seat, seat'] at seats
      cases seats with
      | some same =>
        cases same with
        | @some x y same =>
          obtain ⟨place, rest⟩ := x
          obtain ⟨_, rest'⟩ := y
          obtain ⟨rfl, u, k, meets, akin⟩ := same
          exact h.busy akin meets pools related seat seat'
        | none =>
          refine ⟨[worker], ?_⟩
          show Level K R met _ (q.step t plan' worker w')
          cases waits : p.waiting with
          | nil =>
            rw [Pool.step_idle seat waits, Pool.step_idle seat' (pools.waiting.symm.trans waits)]
            exact ⟨pools, related⟩
          | cons next waiting =>
            obtain ⟨place, d⟩ := next
            rw [Pool.step_begin seat waits, Pool.step_begin seat' (pools.waiting.symm.trans waits)]
            have seats := h.seated pools.workers .refl .refl (h.first w w') (plans d (.worker worker)) worker place
            exact ⟨⟨rfl, seats, pools.finished⟩, related⟩

theorem Level.schedule : ∀ (turns : List Nat) {x : Pool × World ω} {y : Pool × World ω'}, Level K R met x y →
    ∃ turns', Level K R met (Pool.after s plan turns x) (Pool.after t plan' turns' y)
  | [], _, _, level => ⟨[], level⟩
  | worker :: turns, _, _, level => by
    obtain ⟨first, level⟩ := level.turn h plans worker
    obtain ⟨others, level⟩ := schedule turns level
    refine ⟨first ++ others, ?_⟩
    unfold Pool.after at level ⊢
    rw [List.foldl_append]
    exact level

/-- Whatever the schedule, the other pool has one with which it comes to outcomes that are alike. -/
theorem Surroundings.Beside.outcomes (cases : List CaseDescriptor) (workers : Nat) (schedule : List Nat)
    (related : World.Related R w w') :
    ∃ schedule', K.Outcomes (Pool.outcomes s plan cases workers schedule w).1
        (Pool.outcomes t plan' cases workers schedule' w').1 ∧
      World.Related R (Pool.outcomes s plan cases workers schedule w).2
        (Pool.outcomes t plan' cases workers schedule' w').2 := by
  have free : Seats K met w w' (List.replicate workers none) (List.replicate workers none) :=
    List.forall₂_same.2 fun x member => by rw [List.eq_of_mem_replicate member]; exact .none
  have start : Level K R met (Pool.start cases workers, w) (Pool.start cases workers, w') := ⟨⟨rfl, free, .nil⟩, related⟩
  obtain ⟨schedule', pools, related⟩ := start.schedule h plans schedule
  obtain ⟨running, related⟩ := h.finishRunning _ pools.workers related
  obtain ⟨waited, related⟩ := h.finishWaiting plans (Pool.after s plan schedule (Pool.start cases workers, w)).1.waiting
    related
  refine ⟨schedule', ?_⟩
  rw [pools.waiting] at waited related
  unfold Pool.outcomes
  unfold Pool.after at pools running waited related
  dsimp only
  rw [pools.waiting]
  exact ⟨List.rel_append (List.rel_append pools.finished running) waited, related⟩

end

theorem Kinship.Outcomes.collect {outcomes outcomes' : List (Nat × Except Fault CaseResult)}
    (h : K.Outcomes outcomes outcomes') (count : Nat) :
    Agreed (List.Forall₂ K.results) (Pool.collect outcomes count) (Pool.collect outcomes' count) := by
  have found : Relator.LiftFun Eq (Option.Rel (Agreed K.results)) (fun place => outcomes.lookup place)
      fun place => outcomes'.lookup place := by
    rintro place _ rfl
    exact forall₂_lookup h place
  exact agreed_all (List.rel_filterMap found (List.forall₂_refl _))

/-! ## Actions that one of many others follows -/

namespace Act

variable {σ τ α β γ δ : Type} {ι κ : Type}

/-- From related states one of the actions `q` comes to a related value or to the same fault. -/
def Follows (R : σ → τ → Prop) (V : α → β → Prop) (p : Act σ α) (q : ι → Act τ β) : Prop :=
  ∀ x y, R x y → ∃ i, Agreed V (p.run x).1 ((q i).run y).1 ∧ R (p.run x).2 ((q i).run y).2

variable {R : σ → τ → Prop} {V : α → β → Prop} {W : γ → δ → Prop} {p : Act σ α} {q : ι → Act τ β} {f : α → Act σ γ}

theorem Agree.follows [Nonempty ι] {q : Act τ α} (h : Agree R p q) : Follows R Eq p fun _ : ι => q := by
  intro x y related
  obtain ⟨outcome, related⟩ := h x y related
  refine ⟨Classical.arbitrary ι, ?_, related⟩
  rw [← outcome]
  exact agreed_refl _

theorem follows_pure [Nonempty ι] {a : α} {b : β} (values : V a b) :
    Follows R V (pure a) fun _ : ι => pure b :=
  fun _ _ related => ⟨Classical.arbitrary ι, .ok values, related⟩

theorem Follows.bind [Nonempty κ] {g : κ → β → Act τ δ} (h : Follows R V p q)
    (rest : ∀ a b, V a b → Follows R W (f a) fun k => g k b) :
    Follows R W (p >>= f) fun i : ι × κ => q i.1 >>= g i.2 := by
  intro x y related
  obtain ⟨i, agreed, related⟩ := h x y related
  cases hp : p.run x with
  | mk r x' =>
    cases hq : (q i).run y with
    | mk r' y' =>
      rw [hp, hq] at agreed related
      cases agreed with
      | ok values =>
        obtain ⟨k, agreed, related⟩ := rest _ _ values x' y' related
        refine ⟨(i, k), ?_⟩
        dsimp only
        rw [run_bind, hp, run_bind, hq]
        exact ⟨agreed, related⟩
      | error fault =>
        refine ⟨(i, Classical.arbitrary κ), ?_⟩
        dsimp only
        rw [run_bind, hp, run_bind, hq]
        exact ⟨.error fault, related⟩

/-- What is followed by the same action whatever the choice, and then by one of many. -/
theorem Follows.then [Nonempty ι] {q : Act τ β} {g : ι → β → Act τ δ} (h : Follows R V p fun _ : Unit => q)
    (rest : ∀ a b, V a b → Follows R W (f a) fun i => g i b) : Follows R W (p >>= f) fun i => q >>= g i := by
  intro x y related
  obtain ⟨⟨_, i⟩, followed⟩ := h.bind rest x y related
  exact ⟨i, followed⟩

/-- What is followed by one of many actions, and then by the same whatever the choice. -/
theorem Follows.last {g : β → Act τ δ} (h : Follows R V p q)
    (rest : ∀ a b, V a b → Follows R W (f a) fun _ : Unit => g b) : Follows R W (p >>= f) fun i => q i >>= g := by
  have joined : Follows R W (p >>= f) fun i : ι × Unit => q i.1 >>= g :=
    h.bind (g := fun _ b => g b) rest
  intro x y related
  obtain ⟨⟨i, _⟩, followed⟩ := joined x y related
  exact ⟨i, followed⟩

end Act

/-! ## The whole suite -/

/-- The schedules with which another suite may follow: one after another, the schedule does not matter. -/
abbrev SuitePlan.Schedules (plan : SuitePlan) (schedule : List Nat) : Type :=
  { other : List Nat // plan.workers ≤ 1 → other = schedule }

instance (plan : SuitePlan) (schedule : List Nat) : Nonempty (plan.Schedules schedule) := ⟨schedule, fun _ => rfl⟩

section

variable {α β γ δ : Type} {C : Coupling SharedOp.Reply κ} {k : κ} {V : α → β → Prop} {W : γ → δ → Prop}
  {p : SharedProcedure α} {q : SharedProcedure β}

theorem agreed_alone (hp : Alone C p) (hq : Alone C q) (values : ∀ a b, V a b) :
    Coupled C (fun _ => Agreed V) k (ExceptT.run p) (ExceptT.run q) := by
  refine Coupled.alone _ _ hp hq ?_
  rintro _ _ ⟨a, rfl⟩ ⟨b, rfl⟩
  exact .ok (values a b)

theorem agreed_seq {f : α → SharedProcedure γ} {g : β → SharedProcedure δ}
    (h : Coupled C (fun _ => Agreed V) k (ExceptT.run p) (ExceptT.run q))
    (rest : ∀ k' a b, V a b → Coupled C (fun _ => Agreed W) k' (ExceptT.run (f a)) (ExceptT.run (g b))) :
    Coupled C (fun _ => Agreed W) k (ExceptT.run (p >>= f)) (ExceptT.run (q >>= g)) := by
  refine h.bind fun k' _ _ agreed => ?_
  cases agreed with
  | ok values => exact rest k' _ _ values
  | error fault => exact .done (.error fault)

theorem agreed_outcome (h : Coupled C (fun _ => Agreed V) k (ExceptT.run p) (ExceptT.run q)) :
    Coupled C (fun _ => Agreed (Agreed V)) k (ExceptT.run p.outcome) (ExceptT.run q.outcome) :=
  h.bind fun _ _ _ agreed => .done (.ok agreed)

end

/-- Summaries that are alike, or the same fault. -/
def Kinship.Summaries (K : Kinship κ) : Except Fault SuiteSummary → Except Fault SuiteSummary → Prop :=
  Agreed (SuiteSummary.Rel K.results K.times)

namespace Surroundings.Beside

variable {α β : Type} {V : α → β → Prop} {plan plan' : SuitePlan}

theorem perform (h : s.Beside K R met t) {u : UnitId} {p : SharedProcedure α} {q : SharedProcedure β}
    (coupled : Coupled (K.coupling u) (fun _ => Agreed V) K.first (ExceptT.run p) (ExceptT.run q)) :
    Act.Follows (World.Related R) V (s.perform p) fun _ : Unit => t.perform q := by
  intro w w' related
  obtain ⟨⟨_, agreed⟩, related⟩ := h.run coupled (h.first w w') related
  exact ⟨(), agreed, related⟩

theorem tellReport (h : s.Beside K R met t) (call : ReportCall) :
    Act.Follows (World.Related R) (fun _ _ => True) (s.perform (KeywordSuite.tellReport call))
      fun _ : Unit => t.perform (KeywordSuite.tellReport call) :=
  have tells : Alone (K.coupling .calling) (KeywordSuite.tellReport call) := alone_coupling (alone_tellReport call)
  h.perform (agreed_alone tells tells fun _ _ => trivial)

/-- Whoever is informed and wherever the report is written, the summaries are alike. -/
theorem finishSuite (h : s.Beside K R met t) (plan plan' : SuitePlan) {results results' : List CaseResult}
    (alike : List.Forall₂ K.results results results') {startedAt startedAt' : Timestamp}
    (started : K.times startedAt startedAt') :
    Act.Follows (World.Related R) (fun x y => K.Summaries x.summary y.summary)
      (s.perform (Surroundings.finishSuite plan results startedAt))
      fun _ : Unit => t.perform (Surroundings.finishSuite plan' results' startedAt') := by
  have tells : Alone (K.coupling .calling) (KeywordSuite.tellReport .endSuite) :=
    alone_coupling (alone_tellReport .endSuite)
  refine h.perform (u := .calling) (agreed_seq (agreed_alone tells tells fun _ _ => trivial) fun k _ _ _ =>
    agreed_seq (h.clock .calling k) fun k' completedAt completedAt' completed => ?_)
  have informs : ∀ news names, Alone (K.coupling .calling) (informAll news 0 names) :=
    fun news names => alone_coupling (alone_informAll news names 0)
  refine agreed_seq (agreed_outcome (agreed_alone (informs _ _) (informs _ _) fun _ _ => trivial))
    fun _ informed informed' same => .done (.ok ?_)
  cases same with
  | ok _ => exact .ok (SuiteSummary.rel_ofResults h.passed alike started completed)
  | error fault => exact .error fault

variable (h : s.Beside K R met t) (plans : plan.Akin K plan')
include h plans

theorem runEach : ∀ cases, Act.Follows (World.Related R) (List.Forall₂ K.results) (s.runEach plan cases)
    fun _ : Unit => t.runEach plan' cases
  | [] => Act.follows_pure .nil
  | d :: rest => by
    have runs : Act.Follows (World.Related R) K.results (s.perform (d.run plan .calling))
        fun _ : Unit => t.perform (d.run plan' .calling) := h.perform (plans d .calling)
    exact runs.then fun _ _ first => (runEach rest).last fun _ _ others => Act.follows_pure (.cons first others)

theorem runPool (pooled : ¬ plan.workers ≤ 1) (cases : List CaseDescriptor) (workers : Nat) (schedule : List Nat) :
    Act.Follows (World.Related R) (List.Forall₂ K.results) (s.runPool plan cases workers schedule)
      fun other : plan.Schedules schedule => t.runPool plan' cases workers other.1 := by
  have outcomes : Act.Follows (World.Related R) K.Outcomes
      (Act.make fun w => (.ok (Pool.outcomes s plan cases workers schedule w).1,
        (Pool.outcomes s plan cases workers schedule w).2))
      fun other : plan.Schedules schedule => Act.make fun w => (.ok (Pool.outcomes t plan' cases workers other.1 w).1,
        (Pool.outcomes t plan' cases workers other.1 w).2) := by
    intro w w' related
    obtain ⟨schedule', outcomes, related⟩ := h.outcomes plans cases workers schedule related
    exact ⟨⟨schedule', fun few => absurd few pooled⟩, .ok outcomes, related⟩
  refine outcomes.last fun found found' alike => ?_
  intro w w' related
  refine ⟨(), ?_⟩
  rw [Act.run_ofExcept, Act.run_ofExcept]
  exact ⟨alike.collect _, related⟩

theorem runAll (sameWorkers : plan.workers = plan'.workers) (cases : List CaseDescriptor) (schedule : List Nat) :
    Act.Follows (World.Related R) (List.Forall₂ K.results) (s.runAll plan cases schedule)
      fun other : plan.Schedules schedule => t.runAll plan' cases other.1 := by
  unfold Surroundings.runAll Surroundings.workerCount
  rw [← sameWorkers]
  dsimp only
  split
  · intro w w' related
    obtain ⟨_, followed⟩ := h.runEach plans cases w w' related
    exact ⟨⟨schedule, fun _ => rfl⟩, followed⟩
  · rename_i many
    have pooled : ¬ plan.workers ≤ 1 := fun few => many (Nat.le_trans (Nat.min_le_left _ _) few)
    exact Act.Follows.then (h.backend.note _ _).follows fun _ _ _ => h.runPool plans pooled cases _ schedule

theorem runListed (sameWorkers : plan.workers = plan'.workers) (schedule : List Nat) :
    Act.Follows (World.Related R) (fun x y => K.Summaries x.summary y.summary) (s.runListed plan schedule)
      fun other : plan.Schedules schedule => t.runListed plan' other.1 := by
  have clock : Act.Follows (World.Related R) K.times (Surroundings.readClock s.now)
      fun _ : Unit => Surroundings.readClock t.now := h.perform (h.clock .calling K.first)
  refine Act.Follows.then clock fun startedAt startedAt' started => ?_
  refine Act.Follows.then (h.backend.note _ _).follows fun _ _ _ => ?_
  refine Act.Follows.then (h.tellReport _) fun _ _ _ => ?_
  refine Act.Follows.then h.listActive.zoom.attempt.follows ?_
  rintro listed _ rfl
  -- both suites list the same test cases or fail to for the same reason
  cases listed with
  | error fault =>
    refine Act.Follows.then (h.backend.note _ _).follows fun _ _ _ => ?_
    refine Act.Follows.then (h.finishSuite plan plan' .nil started) fun ended ended' alike => Act.follows_pure ?_
    dsimp only
    generalize ended.summary = x, ended'.summary = y at alike
    cases alike with
    | ok _ => exact .error _
    | error fault => exact .error fault
  | ok cases =>
    refine Act.Follows.then (h.backend.note _ _).follows fun _ _ _ => ?_
    refine Act.Follows.last (h.runAll plans sameWorkers cases schedule) fun results results' alike => ?_
    refine Act.Follows.then (h.finishSuite plan plan' alike started) fun ended ended' alike => ?_
    obtain ⟨x, path⟩ := ended
    obtain ⟨y, path'⟩ := ended'
    cases alike with
    | error fault => exact Act.follows_pure (.error fault)
    | ok alike =>
      dsimp only
      rw [alike.total, alike.passed, alike.failed]
      refine Act.Follows.then (h.backend.note _ _).follows fun _ _ _ => ?_
      exact Act.Follows.then (h.backend.note _ _).follows fun _ _ _ => Act.follows_pure (.ok alike)

/-- However the turns of the one suite are scheduled, the other has a schedule with an alike summary. -/
theorem runSuite (sameWorkers : plan.workers = plan'.workers) (schedule : List Nat) {w : World ω} {w' : World ω'}
    (related : World.Related R w w') :
    ∃ schedule', (plan.workers ≤ 1 → schedule' = schedule) ∧
      K.Summaries (s.runSuite plan schedule w).1.summary (t.runSuite plan' schedule' w').1.summary ∧
      World.Related R (s.runSuite plan schedule w).2 (t.runSuite plan' schedule' w').2 := by
  obtain ⟨⟨schedule', few⟩, agreed, related⟩ := h.runListed plans sameWorkers schedule w w' related
  refine ⟨schedule', few, ?_⟩
  unfold Surroundings.runSuite
  cases hs : (s.runListed plan schedule).run w with
  | mk r x =>
    cases ht : (t.runListed plan' schedule').run w' with
    | mk r' x' =>
      rw [hs, ht] at agreed related
      cases agreed with
      | ok alike => exact ⟨alike, related⟩
      | error fault => exact ⟨.error fault, related⟩

end Surroundings.Beside

end KeywordSuite
