import KeywordSuite.Proofs.Session.Journal
import KeywordSuite.Suite.Run

/-!
# The history of a suite

What the test cases of a suite did, each event with the place of its test case. A history tells the
life of every session, and the deeds of every test case.
-/

namespace KeywordSuite

inductive CaseEvent
  | began (d : CaseDescriptor) (unit : UnitId)
  /-- The test case is about to show its failure. -/
  | showed (testId testName : String)
  | session (event : SessionEvent)
  | ended (outcome : Except Fault CaseResult)

def CaseEvent.session? : CaseEvent → Option SessionEvent
  | .session event => some event
  | _ => none

/-- Events with the places of their test cases, in the order they happened. -/
abbrev History := List (Nat × CaseEvent)

namespace History

/-- What the test case at a place does next. -/
def noted (h : History) (place : Nat) (events : List CaseEvent) : History :=
  h ++ events.map (Prod.mk place)

/-- What happened to sessions, and the places of the test cases that did it. -/
def sessionLog (h : History) : List (Nat × SessionEvent) :=
  h.filterMap fun e => e.2.session?.map (Prod.mk e.1)

def deeds (h : History) (place : Nat) : List CaseEvent :=
  h.filterMap fun e => if e.1 = place then some e.2 else none

def Knows (h : History) (place : Nat) : Prop := ∃ e ∈ h, e.1 = place

variable (h : History) (place : Nat) (events : List CaseEvent)

theorem sessionLog_noted : (h.noted place events).sessionLog =
    h.sessionLog ++ (events.filterMap CaseEvent.session?).map (Prod.mk place) := by
  unfold sessionLog noted
  rw [List.filterMap_append, List.filterMap_map, List.map_filterMap]
  rfl

theorem deeds_noted_self : (h.noted place events).deeds place = h.deeds place ++ events := by
  unfold deeds noted
  rw [List.filterMap_append, List.filterMap_map]
  congr 1
  have all : (fun e : CaseEvent => if (place, e).1 = place then some (place, e).2 else none) = some := by
    funext e
    exact if_pos rfl
  show events.filterMap (fun e => if (place, e).1 = place then some (place, e).2 else none) = events
  rw [all, List.filterMap_some]

theorem deeds_noted_other {k : Nat} (hk : k ≠ place) : (h.noted place events).deeds k = h.deeds k := by
  unfold deeds noted
  rw [List.filterMap_append, List.filterMap_map]
  have nothing : events.filterMap ((fun e : Nat × CaseEvent => if e.1 = k then some e.2 else none) ∘
      Prod.mk place) = [] := by
    apply List.filterMap_eq_nil_iff.2
    intro e _
    exact if_neg (Ne.symm hk)
  rw [nothing, List.append_nil]

theorem deeds_of_not_knows {h : History} {k : Nat} (hk : ¬ h.Knows k) : h.deeds k = [] := by
  apply List.filterMap_eq_nil_iff.2
  intro e he
  exact if_neg fun hp => hk ⟨e, he, hp⟩

theorem Knows.noted {h : History} {k : Nat} (hk : h.Knows k) : (h.noted place events).Knows k := by
  obtain ⟨e, he, hp⟩ := hk
  exact ⟨e, List.mem_append_left _ he, hp⟩

theorem knows_noted {h : History} {k : Nat} (hk : (h.noted place events).Knows k) :
    h.Knows k ∨ k = place := by
  obtain ⟨e, he, rfl⟩ := hk
  rcases List.mem_append.1 he with old | new
  · exact .inl ⟨e, old, rfl⟩
  · obtain ⟨x, -, rfl⟩ := List.mem_map.1 new
    exact .inr rfl

end History

/-! ## The lives of sessions -/

def lifeOf (n : SessionId) (log : List (Nat × SessionEvent)) : List (Nat × SessionEvent) :=
  log.filter fun e => e.2.session = n

/-- A test case created a session and used it. -/
def IsOpenLife (place : Nat) (n : SessionId) (life : List (Nat × SessionEvent)) : Prop :=
  ∃ calls : List SessionCall, .quit ∉ calls ∧
    life = (place, .created n) :: calls.map fun call => (place, .called n call)

/-- A test case created a session, used it, and then quit it. -/
def IsWholeLife (place : Nat) (n : SessionId) (life : List (Nat × SessionEvent)) : Prop :=
  ∃ calls : List SessionCall, .quit ∉ calls ∧
    life = (place, .created n) :: (calls.map fun call => (place, .called n call)) ++
      [(place, .called n .quit)]

section

variable {n m : SessionId} {place k : Nat} {life log : List (Nat × SessionEvent)}

theorem lifeOf_append_self (event : SessionEvent) (h : event.session = n) :
    lifeOf n (log ++ [(place, event)]) = lifeOf n log ++ [(place, event)] := by
  unfold lifeOf
  rw [List.filter_append, List.filter_cons_of_pos (by simpa using h), List.filter_nil]

theorem lifeOf_append_other (event : SessionEvent) (h : event.session ≠ n) :
    lifeOf n (log ++ [(place, event)]) = lifeOf n log := by
  unfold lifeOf
  rw [List.filter_append, List.filter_cons_of_neg (by simpa using h), List.filter_nil, List.append_nil]

theorem isOpenLife_created : IsOpenLife place n [(place, .created n)] := ⟨[], List.not_mem_nil, rfl⟩

theorem IsOpenLife.used (h : IsOpenLife place n life) {call : SessionCall} (hc : call ≠ .quit) :
    IsOpenLife place n (life ++ [(place, .called n call)]) := by
  obtain ⟨calls, keeps, rfl⟩ := h
  refine ⟨calls ++ [call], ?_, by simp⟩
  intro hm
  rcases List.mem_append.1 hm with old | new
  · exact keeps old
  · exact hc (List.mem_singleton.1 new).symm

theorem IsOpenLife.closed (h : IsOpenLife place n life) :
    IsWholeLife place n (life ++ [(place, .called n .quit)]) := by
  obtain ⟨calls, keeps, rfl⟩ := h
  exact ⟨calls, keeps, rfl⟩

theorem IsOpenLife.place_eq (h : IsOpenLife place n life) (h' : IsOpenLife k n life) : place = k := by
  obtain ⟨calls, -, rfl⟩ := h
  obtain ⟨calls', -, same⟩ := h'
  have first := (List.cons.inj same).1
  exact congrArg Prod.fst first

end

/--
Every session that was created either lives in the unit of the test case that created it, or has a
whole life behind it. The test case on each unit is given by its place.
-/
structure Lives (place? : UnitId → Option Nat) (t : SessionTable) (log : List (Nat × SessionEvent)) :
    Prop where
  unborn : ∀ n, t.created < n → lifeOf n log = []
  held : ∀ u n, t.live? u = some n → n ≤ t.created ∧ ∃ place, place? u = some place ∧
    IsOpenLife place n (lifeOf n log)
  lived : ∀ n, lifeOf n log ≠ [] → (∃ u, t.live? u = some n) ∨ ∃ place, IsWholeLife place n (lifeOf n log)

namespace Lives

variable {place? : UnitId → Option Nat} {t t' : SessionTable} {log : List (Nat × SessionEvent)}

theorem empty (x : UnitId → Option Nat) : Lives x .empty [] where
  unborn _ _ := rfl
  held _ _ live := by cases live
  lived _ born := absurd rfl born

theorem moved (h : Lives place? t log) {where? : UnitId → Option Nat}
    (stays : ∀ u n, t.live? u = some n → where? u = place? u) : Lives where? t log where
  unborn := h.unborn
  held := by
    intro u n live
    rw [stays u n live]
    exact h.held u n live
  lived := h.lived

variable {u : UnitId} {place : Nat} (h : Lives place? t log)
include h

theorem quiet (live : ∀ v, t'.live? v = t.live? v) (count : t'.created = t.created) :
    Lives place? t' log where
  unborn := by rw [count]; exact h.unborn
  held := by
    intro v n hl
    rw [live] at hl
    rw [count]
    exact h.held v n hl
  lived := by
    intro n born
    simp only [live]
    exact h.lived n born

variable (here : place? u = some place) (apart : ∀ v k, place? v = some k → k = place → v = u)
include here

theorem opened (idle : t.live? u = none) (live : ∀ v, t'.live? v = if v = u then some t.next else t.live? v)
    (count : t'.created = t.next) : Lives place? t' (log ++ [(place, .created t.next)]) where
  unborn := by
    intro n hn
    rw [count] at hn
    have old : t.created < n := Nat.lt_of_succ_lt hn
    rw [lifeOf_append_other (.created t.next) (Nat.ne_of_lt hn)]
    exact h.unborn n old
  held := by
    intro v n hl
    rw [live] at hl
    rw [count]
    by_cases hv : v = u
    · subst hv
      rw [if_pos rfl] at hl
      cases hl
      have new : lifeOf t.next log = [] := h.unborn _ (Nat.lt_succ_self _)
      rw [lifeOf_append_self (n := t.next) (.created t.next) rfl, new]
      exact ⟨Nat.le_refl _, place, here, isOpenLife_created⟩
    · rw [if_neg hv] at hl
      obtain ⟨old, rest⟩ := h.held v n hl
      rw [lifeOf_append_other (.created t.next) (Nat.ne_of_gt (Nat.lt_succ_of_le old))]
      exact ⟨Nat.le_succ_of_le old, rest⟩
  lived := by
    intro n born
    -- a new session starts a life of its own and every other one goes on as it was
    by_cases hn : t.next = n
    · refine .inl ⟨u, ?_⟩
      rw [live, if_pos rfl, hn]
    · rw [lifeOf_append_other (.created t.next) hn] at born ⊢
      refine (h.lived n born).imp_left ?_
      intro hv
      obtain ⟨v, hv⟩ := hv
      refine ⟨v, ?_⟩
      have other : v ≠ u := by
        intro same
        rw [same, idle] at hv
        cases hv
      rw [live, if_neg other, hv]

theorem used {n : SessionId} {call : SessionCall} (current : t.live? u = some n) (keeps : call ≠ .quit)
    (live : ∀ v, t'.live? v = t.live? v) (count : t'.created = t.created) :
    Lives place? t' (log ++ [(place, .called n call)]) := by
  obtain ⟨old, k, hk, openLife⟩ := h.held u n current
  have mine : k = place := Option.some.inj (hk.symm.trans here)
  subst mine
  constructor
  case unborn =>
    intro m hm
    rw [count] at hm
    rw [lifeOf_append_other (.called n call) (Nat.ne_of_lt (Nat.lt_of_le_of_lt old hm))]
    exact h.unborn m hm
  case held =>
    intro v m hl
    rw [live] at hl
    rw [count]
    obtain ⟨old', k', hk', openLife'⟩ := h.held v m hl
    refine ⟨old', k', hk', ?_⟩
    by_cases hm : n = m
    · subst hm
      have same : k' = k := openLife'.place_eq openLife
      subst same
      rw [lifeOf_append_self (n := n) (.called n call) rfl]
      exact openLife.used keeps
    · rw [lifeOf_append_other (.called n call) hm]
      exact openLife'
  case lived =>
    intro m born
    simp only [live]
    by_cases hm : n = m
    · subst hm
      exact .inl ⟨u, current⟩
    · rw [lifeOf_append_other (.called n call) hm] at born ⊢
      exact h.lived m born

include apart

theorem closed {n : SessionId} (current : t.live? u = some n)
    (live : ∀ v, t'.live? v = if v = u then none else t.live? v) (count : t'.created = t.created) :
    Lives place? t' (log ++ [(place, .called n .quit)]) := by
  obtain ⟨old, k, hk, openLife⟩ := h.held u n current
  have mine : k = place := Option.some.inj (hk.symm.trans here)
  subst mine
  constructor
  case unborn =>
    intro m hm
    rw [count] at hm
    rw [lifeOf_append_other (.called n .quit) (Nat.ne_of_lt (Nat.lt_of_le_of_lt old hm))]
    exact h.unborn m hm
  case held =>
    intro v m hl
    rw [live] at hl
    rw [count]
    by_cases hv : v = u
    · rw [if_pos hv] at hl
      cases hl
    · rw [if_neg hv] at hl
      obtain ⟨old', k', hk', openLife'⟩ := h.held v m hl
      -- One life has one place, so no other unit lives in the session that is quit.
      have other : n ≠ m := by
        intro same
        subst same
        exact hv (apart v k' hk' (openLife'.place_eq openLife))
      rw [lifeOf_append_other (.called n .quit) other]
      exact ⟨old', k', hk', openLife'⟩
  case lived =>
    intro m born
    by_cases hm : n = m
    · subst hm
      rw [lifeOf_append_self (n := n) (.called n .quit) rfl]
      exact .inr ⟨k, openLife.closed⟩
    · rw [lifeOf_append_other (.called n .quit) hm] at born ⊢
      refine (h.lived m born).imp_left ?_
      intro hv
      obtain ⟨v, hv⟩ := hv
      refine ⟨v, ?_⟩
      have other : v ≠ u := by
        intro same
        rw [same, current] at hv
        exact hm (Option.some.inj hv)
      rw [live, if_neg other, hv]

/-- Whatever a test case does to the session of its own unit leaves all lives in order. -/
theorem affected {events : List SessionEvent} (effect : SlotEffect u t t' events) :
    Lives place? t' (log ++ events.map (Prod.mk place)) := by
  cases effect with
  | quiet live count =>
    rw [List.map_nil, List.append_nil]
    exact h.quiet live count
  | opened idle live count => exact h.opened here idle live count
  | used current keeps live count => exact h.used here current keeps live count
  | closed current live count => exact h.closed here apart current live count

end Lives

/-! ## What a test case leaves open -/

/-- The session that is left open after an event. -/
def SessionEvent.leaves (live : Option SessionId) : SessionEvent → Option SessionId
  | .created n => some n
  | .called _ .quit => none
  | .called _ _ => live

def CaseEvent.leaves (live : Option SessionId) : CaseEvent → Option SessionId
  | .session event => event.leaves live
  | _ => live

/-- The session that a test case has left open after some deeds. -/
def openAfter (deeds : List CaseEvent) : Option SessionId := deeds.foldl CaseEvent.leaves none

theorem foldl_session (live : Option SessionId) (events : List SessionEvent) :
    (events.map CaseEvent.session).foldl CaseEvent.leaves live = events.foldl SessionEvent.leaves live := by
  rw [List.foldl_map]
  rfl

theorem SlotEffect.leaves {u : UnitId} {t t' : SessionTable} {events : List SessionEvent}
    (h : SlotEffect u t t' events) : t'.live? u = events.foldl SessionEvent.leaves (t.live? u) := by
  cases h with
  | quiet live count => exact live u
  | opened idle live count =>
    rw [live, if_pos rfl]
    rfl
  | used current keeps live count =>
    rw [live]
    cases ‹SessionCall› <;> first | rfl | exact absurd rfl keeps
  | closed current live count =>
    rw [live, if_pos rfl]
    rfl

theorem SlotEffect.live_other {u v : UnitId} {t t' : SessionTable} {events : List SessionEvent}
    (h : SlotEffect u t t' events) (hv : v ≠ u) : t'.live? v = t.live? v := by
  cases h with
  | quiet live count => exact live v
  | opened idle live count => rw [live, if_neg hv]
  | used current keeps live count => exact live v
  | closed current live count => rw [live, if_neg hv]

end KeywordSuite
