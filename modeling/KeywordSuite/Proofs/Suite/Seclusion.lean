import Mathlib.Logic.Function.Basic
import KeywordSuite.Proofs.Case.Isolation

/-!
# Surroundings that keep sessions apart

In such surroundings what a session answers depends only on what was done with it, and everything else
leaves sessions alone. Then a test case that runs beside others is answered as it is answered alone.
-/

namespace KeywordSuite

section

variable {ω α φ : Type}

/-- An action comes to the same wherever it is done. -/
def Act.Uniform (act : Act ω α) : Prop := ∀ x y, (act.run x).1 = (act.run y).1

/-- An action changes no session. -/
def Act.Quiet (view : ω → SessionId → φ) (act : Act ω α) : Prop := ∀ x, view (act.run x).2 = view x

/-- An action changes no session but the one of a number. -/
def Act.Confined (view : ω → SessionId → φ) (n : SessionId) (act : Act ω α) : Prop :=
  ∀ x m, m ≠ n → view (act.run x).2 m = view x m

/--
Surroundings in which the sessions are apart. The view of a session is what its answers depend on, such
as all calls that were made on it; a new session depends only on its configuration, and the time stamp
in the path of a screenshot does not matter.
-/
structure Surroundings.Secluded (s : Surroundings ω) (view : ω → SessionId → φ) : Prop where
  create : ∀ config n n' x x', ((s.create n config).run x).1 = ((s.create n' config).run x').1 ∧
    view ((s.create n config).run x).2 n = view ((s.create n' config).run x').2 n'
  createConfined : ∀ config n, (s.create n config).Confined view n
  browse : ∀ call n n' x x', view x n = view x' n' →
    ((s.browse n call).run x).1 = ((s.browse n' call).run x').1 ∧
      view ((s.browse n call).run x).2 n = view ((s.browse n' call).run x').2 n'
  browseConfined : ∀ call n, (s.browse n call).Confined view n
  shots : ∀ directory label t t' n n' x x', view x n = view x' n' →
    let shot := (s.browse n (.saveScreenshot (Screenshots.path directory label t).text)).run x
    let shot' := (s.browse n' (.saveScreenshot (Screenshots.path directory label t').text)).run x'
    shot.1.isOk = shot'.1.isOk ∧ view shot.2 n = view shot'.2 n'
  log : ∀ level message x, view (s.log level message x) = view x
  sleep : ∀ seconds, (s.sleep seconds).Uniform ∧ (s.sleep seconds).Quiet view
  loadInput : ∀ testId, (s.source.loadInput testId).Uniform ∧ (s.source.loadInput testId).Quiet view
  loadKeywords : ∀ testId, (s.source.loadKeywords testId).Uniform ∧ (s.source.loadKeywords testId).Quiet view
  report : ∀ tell, s.report = some tell → ∀ call, (tell call).Quiet view
  listeners : ∀ l ∈ s.listeners, ∀ news, (l.tell news).Quiet view
  capture : ∀ onDemand onFailure, s.capture = .other onDemand onFailure →
    (∀ label u, (onDemand label u).Quiet view ∧ ∀ v x y,
      Matched True (Option.Rel TextAlike) ((onDemand label u).run x).1 ((onDemand label v).run y).1) ∧
    ∀ testId testName reason u, (onFailure testId testName reason u).Quiet view ∧
      ∀ reason' v x y, Option.Rel TextAlike reason reason' → Matched True (Option.Rel TextAlike)
        ((onFailure testId testName reason u).run x).1 ((onFailure testId testName reason' v).run y).1

end

/-! ## Worlds side by side -/

section

variable {ω φ : Type} (s : Surroundings ω) (view : ω → SessionId → φ)

/--
The sessions of a test case on the unit `u` of one world and on `v` of another: those that are paired
look the same, and the live ones are paired. In the first world each has an owner.
-/
structure Linked (owner : SessionId → UnitId) (u v : UnitId) (pairs : List (SessionId × SessionId))
    (w w' : World ω) : Prop where
  mine : ∀ n m, (n, m) ∈ pairs → owner n = u
  born : ∀ n m, (n, m) ∈ pairs → n ≤ w.sessions.created ∧ m ≤ w'.sessions.created
  same : ∀ n m, (n, m) ∈ pairs → view w.outer n = view w'.outer m
  apart : ∀ n m n' m', (n, m) ∈ pairs → (n', m') ∈ pairs → (n = n' ↔ m = m')
  live : Option.Rel (fun n m => (n, m) ∈ pairs) (w.sessions.live? u) (w'.sessions.live? v)

/-- What a change of the world by the unit `u` leaves as it was: everything of other units. -/
structure Moves (owner : SessionId → UnitId) (u : UnitId) (w : World ω) (owner' : SessionId → UnitId)
    (w₁ : World ω) : Prop where
  count : w.sessions.created ≤ w₁.sessions.created
  owners : ∀ n ≤ w.sessions.created, owner' n = owner n
  views : ∀ n ≤ w.sessions.created, owner n ≠ u → view w₁.outer n = view w.outer n
  lives : ∀ v ≠ u, w₁.sessions.live? v = w.sessions.live? v

/-- From one world to another no session changes but perhaps one. -/
structure Spares (n? : Option SessionId) (w w₁ : World ω) : Prop where
  sessions : w₁.sessions = w.sessions
  views : ∀ n ≤ w.sessions.created, n? ≠ some n → view w₁.outer n = view w.outer n

variable {s view} {owner owner' : SessionId → UnitId} {u v : UnitId} {pairs : List (SessionId × SessionId)}
  {w w' w₁ w₁' : World ω} {n m : SessionId}

theorem Moves.refl (w : World ω) : Moves view owner u w owner w :=
  ⟨Nat.le_refl _, fun _ _ => rfl, fun _ _ _ => rfl, fun _ _ => rfl⟩

theorem Moves.trans {owner₂ : SessionId → UnitId} {w₂ : World ω} (h : Moves view owner u w owner' w₁)
    (h' : Moves view owner' u w₁ owner₂ w₂) : Moves view owner u w owner₂ w₂ where
  count := Nat.le_trans h.count h'.count
  owners n hn := (h'.owners n (Nat.le_trans hn h.count)).trans (h.owners n hn)
  views n hn other := by
    have other' : owner' n ≠ u := by
      rw [h.owners n hn]
      exact other
    exact (h'.views n (Nat.le_trans hn h.count) other').trans (h.views n hn other)
  lives v hv := (h'.lives v hv).trans (h.lives v hv)

theorem Spares.moves {n? : Option SessionId} (h : Spares view n? w w₁) (mine : ∀ n, n? = some n → owner n = u) :
    Moves view owner u w owner w₁ where
  count := Nat.le_of_eq (congrArg SessionTable.created h.sessions).symm
  owners _ _ := rfl
  views n hn other := h.views n hn fun same => other (mine n same)
  lives v _ := congrArg (SessionTable.live? · v) h.sessions

namespace Linked

/-- Other units do not matter to the sessions of a unit. -/
theorem frame (h : Linked view owner v u pairs w w') {u' : UnitId} (moves : Moves view owner u' w owner' w₁)
    (other : v ≠ u') : Linked view owner' v u pairs w₁ w' where
  mine n m pair := (moves.owners n (h.born n m pair).1).trans (h.mine n m pair)
  born n m pair := ⟨Nat.le_trans (h.born n m pair).1 moves.count, (h.born n m pair).2⟩
  same n m pair := by
    have owned : owner n ≠ u' := by
      rw [h.mine n m pair]
      exact other
    exact (moves.views n (h.born n m pair).1 owned).trans (h.same n m pair)
  apart := h.apart
  live := by
    rw [moves.lives v other]
    exact h.live

theorem spared (h : Linked view owner u v pairs w w') (left : Spares view none w w₁)
    (right : Spares view none w' w₁') : Linked view owner u v pairs w₁ w₁' where
  mine := h.mine
  born := by
    rw [left.sessions, right.sessions]
    exact h.born
  same n m pair := by
    obtain ⟨bornLeft, bornRight⟩ := h.born n m pair
    rw [left.views n bornLeft (by simp), right.views m bornRight (by simp)]
    exact h.same n m pair
  apart := h.apart
  live := by
    rw [left.sessions, right.sessions]
    exact h.live

theorem driven (h : Linked view owner u v pairs w w') (pair : (n, m) ∈ pairs) (left : Spares view (some n) w w₁)
    (right : Spares view (some m) w' w₁') (same : view w₁.outer n = view w₁'.outer m) :
    Linked view owner u v pairs w₁ w₁' where
  mine := h.mine
  born := by
    rw [left.sessions, right.sessions]
    exact h.born
  same n' m' pair' := by
    by_cases this : n = n'
    · have that := (h.apart n m n' m' pair pair').1 this
      subst this that
      exact same
    · have that := (h.apart n m n' m' pair pair').not.1 this
      obtain ⟨bornLeft, bornRight⟩ := h.born n' m' pair'
      rw [left.views n' bornLeft (by simpa using this), right.views m' bornRight (by simpa using that)]
      exact h.same n' m' pair'
  apart := h.apart
  live := by
    rw [left.sessions, right.sessions]
    exact h.live

/-- The sessions of both units are closed, and perhaps their slots are given up. -/
theorem torn (h : Linked view owner u v pairs w w') {t t' : SessionTable}
    (left : t.created = w.sessions.created ∧ t.live? u = none)
    (right : t'.created = w'.sessions.created ∧ t'.live? v = none) :
    Linked view owner u v pairs ⟨t, w.outer⟩ ⟨t', w'.outer⟩ where
  mine := h.mine
  born := by
    rw [left.1, right.1]
    exact h.born
  same := h.same
  apart := h.apart
  live := by
    rw [left.2, right.2]
    exact .none

theorem opened (h : Linked view owner u v pairs w w') {x x' : ω}
    (views : ∀ n ≤ w.sessions.created, view x n = view w.outer n)
    (views' : ∀ m ≤ w'.sessions.created, view x' m = view w'.outer m)
    (same : view x w.sessions.next = view x' w'.sessions.next) :
    Linked view (Function.update owner w.sessions.next u) u v ((w.sessions.next, w'.sessions.next) :: pairs)
      ⟨w.sessions.add u, x⟩ ⟨w'.sessions.add v, x'⟩ where
  mine n m pair := by
    rcases List.mem_cons.1 pair with new | old
    · cases new
      exact Function.update_self ..
    · have before : n ≠ w.sessions.next := Nat.ne_of_lt (Nat.lt_succ_of_le (h.born n m old).1)
      rw [Function.update_of_ne before]
      exact h.mine n m old
  born n m pair := by
    rcases List.mem_cons.1 pair with new | old
    · cases new
      exact ⟨Nat.le_refl _, Nat.le_refl _⟩
    · exact ⟨Nat.le_succ_of_le (h.born n m old).1, Nat.le_succ_of_le (h.born n m old).2⟩
  same n m pair := by
    rcases List.mem_cons.1 pair with new | old
    · cases new
      exact same
    · obtain ⟨bornLeft, bornRight⟩ := h.born n m old
      exact (views n bornLeft).trans ((h.same n m old).trans (views' m bornRight).symm)
  apart n m n' m' pair pair' := by
    -- pairs so far have no new session on either side
    have fresh : ∀ a b, (a, b) ∈ pairs → a ≠ w.sessions.next ∧ b ≠ w'.sessions.next := by
      intro a b old
      exact ⟨Nat.ne_of_lt (Nat.lt_succ_of_le (h.born a b old).1), Nat.ne_of_lt (Nat.lt_succ_of_le (h.born a b old).2)⟩
    rcases List.mem_cons.1 pair with new | old <;> rcases List.mem_cons.1 pair' with new' | old'
    · cases new
      cases new'
      exact ⟨fun _ => rfl, fun _ => rfl⟩
    · cases new
      exact iff_of_false (fresh n' m' old').1.symm (fresh n' m' old').2.symm
    · cases new'
      exact iff_of_false (fresh n m old).1 (fresh n m old).2
    · exact h.apart n m n' m' old old'
  live := by
    dsimp only
    rw [SessionTable.live?_add, SessionTable.live?_add, if_pos rfl, if_pos rfl]
    exact .some List.mem_cons_self

end Linked

theorem Moves.opened (owner : SessionId → UnitId) (u : UnitId) (w : World ω) {x : ω}
    (views : ∀ n ≤ w.sessions.created, view x n = view w.outer n) :
    Moves view owner u w (Function.update owner w.sessions.next u) ⟨w.sessions.add u, x⟩ where
  count := Nat.le_succ _
  owners n hn := Function.update_of_ne (Nat.ne_of_lt (Nat.lt_succ_of_le hn)) ..
  views n hn _ := views n hn
  lives v hv := by
    dsimp only
    rw [SessionTable.live?_add, if_neg hv]

theorem Moves.torn (h : Moves view owner u w owner' w₁) {t : SessionTable} (count : t.created = w₁.sessions.created)
    (lives : ∀ v ≠ u, t.live? v = w₁.sessions.live? v) : Moves view owner u w owner' ⟨t, w₁.outer⟩ where
  count := by
    rw [count]
    exact h.count
  owners := h.owners
  views := h.views
  lives v hv := (lives v hv).trans (h.lives v hv)

theorem Linked.live_cases (h : Linked view owner u v pairs w w') :
    (w.sessions.live? u = none ∧ w'.sessions.live? v = none) ∨
      ∃ n m, w.sessions.live? u = some n ∧ w'.sessions.live? v = some m ∧ (n, m) ∈ pairs := by
  have live := h.live
  generalize w.sessions.live? u = x, w'.sessions.live? v = y at live ⊢
  cases live with
  | none => exact .inl ⟨rfl, rfl⟩
  | some pair => exact .inr ⟨_, _, rfl, rfl, pair⟩

end

/-! ## Two runs abreast -/

section

variable {ω φ : Type} (s : Surroundings ω) (view : ω → SessionId → φ)

/-- The stopwatch was read in a world before. -/
def Surroundings.Read (t : Float) (w : World ω) : Prop := ∃ w₀, s.Later w₀ w ∧ s.stopwatch w₀.outer = t

/-- Two worlds in which a test case has come as far as its ties say. -/
structure Abreast (owner : SessionId → UnitId) (u v : UnitId) (k : Ties) (w w' : World ω) : Prop where
  linked : Linked view owner u v k.sessions w w'
  read : ∀ t t', (t, t') ∈ k.readings → s.Read t w ∧ s.Read t' w'

/-- Operations that the two runs do together: what they answer, and that the runs are abreast after it. -/
def Proceeds (owner : SessionId → UnitId) (u v : UnitId) (k : Ties) (w w' : World ω) (op op' : SharedOp)
    (fails : Prop) (R : Ties → op.Reply → op'.Reply → Prop) : Prop :=
  ∃ k' owner', k ≤ k' ∧ Matched fails (R k') ((s.handle op).run w).1 ((s.handle op').run w').1 ∧
    Moves view owner u w owner' ((s.handle op).run w).2 ∧
    Abreast s view owner' u v k' ((s.handle op).run w).2 ((s.handle op').run w').2

variable {s view} {owner owner' : SessionId → UnitId} {u v : UnitId} {k : Ties} {w w' w₁ w₁' : World ω}
  {op op' : SharedOp} {fails : Prop} {R : Ties → op.Reply → op'.Reply → Prop}
  {r : Except Fault op.Reply} {r' : Except Fault op'.Reply}

theorem Surroundings.Read.later {t : Float} (h : s.Read t w) (later : s.Later w w₁) : s.Read t w₁ := by
  obtain ⟨w₀, before, read⟩ := h
  exact ⟨w₀, before.trans later, read⟩

theorem abreast_idle (idle : w.sessions.live? u = none) (idle' : w'.sessions.live? v = none) :
    Abreast s view owner u v ⟨[], []⟩ w w' := by
  refine ⟨⟨by simp, by simp, by simp, by simp, ?_⟩, by simp⟩
  rw [idle, idle']
  exact .none

namespace Abreast

theorem of_linked (h : Abreast s view owner u v k w w') {pairs : List (SessionId × SessionId)}
    (left : (s.handle op).run w = (r, w₁)) (right : (s.handle op').run w' = (r', w₁'))
    (grown : k.sessions ⊆ pairs) (matched : Matched fails (R ⟨pairs, k.readings⟩) r r')
    (moves : Moves view owner u w owner' w₁) (linked : Linked view owner' u v pairs w₁ w₁') :
    Proceeds s view owner u v k w w' op op' fails R := by
  have later : s.Later w w₁ := by
    have step := Surroundings.Later.step (s := s) op (.refl (w := w))
    rw [left] at step
    exact step
  have later' : s.Later w' w₁' := by
    have step := Surroundings.Later.step (s := s) op' (.refl (w := w'))
    rw [right] at step
    exact step
  refine ⟨⟨pairs, k.readings⟩, owner', ⟨grown, List.Subset.refl _⟩, ?_⟩
  rw [left, right]
  exact ⟨matched, moves, linked, fun t t' read => ⟨(h.read t t' read).1.later later, (h.read t t' read).2.later later'⟩⟩

theorem of_spared (h : Abreast s view owner u v k w w') (left : (s.handle op).run w = (r, w₁))
    (right : (s.handle op').run w' = (r', w₁')) (matched : Matched fails (R k) r r')
    (spares : Spares view none w w₁) (spares' : Spares view none w' w₁') :
    Proceeds s view owner u v k w w' op op' fails R :=
  h.of_linked left right (List.Subset.refl _) matched (spares.moves fun _ none => by cases none)
    (h.linked.spared spares spares')

theorem frame (h : Abreast s view owner v u k w w') {u' : UnitId} (moves : Moves view owner u' w owner' w₁)
    (later : s.Later w w₁) (other : v ≠ u') : Abreast s view owner' v u k w₁ w' where
  linked := h.linked.frame moves other
  read t t' read := ⟨(h.read t t' read).1.later later, (h.read t t' read).2⟩

end Abreast

/-! ## Operations -/

theorem spares_quiet {α : Type} {act : Act ω α} (h : act.Quiet view) (w : World ω) :
    Spares view none w ((World.zoom act).run w).2 :=
  ⟨rfl, fun n _ _ => congrFun (h w.outer) n⟩

variable (hv : s.Secluded view)
include hv

theorem spares_log (level : LogLevel) (message : String) (w : World ω) :
    Spares view none w { w with outer := s.log level message w.outer } :=
  ⟨rfl, fun n _ _ => congrFun (hv.log level message w.outer) n⟩

theorem view_logged {x y : ω} (h : y = x ∨ ∃ level message, y = s.log level message x) : view y = view x := by
  obtain rfl | ⟨level, message, rfl⟩ := h
  · rfl
  · exact hv.log level message x

theorem spares_aside (aside : op.IsAside) (w : World ω) : Spares view none w ((s.handle op).run w).2 := by
  have same : Spares view none w w := ⟨rfl, fun _ _ _ => rfl⟩
  cases op with
  | log level message => exact spares_log hv level message w
  | report call =>
    show Spares view none w ((s.tellReport call).run w).2
    unfold Surroundings.tellReport
    split
    · rename_i tell told
      exact spares_quiet (hv.report tell told call) w
    · exact same
  | inform listener news =>
    show Spares view none w ((s.inform listener news).run w).2
    unfold Surroundings.inform
    split
    · rename_i l hl
      exact spares_quiet (hv.listeners l (List.mem_of_getElem? hl) news) w
    · exact same
  | _ => exact aside.elim

omit hv in
theorem asideReply (hs : s.Uninterrupted) (aside : op.IsAside) (w : World ω) :
    op.AsideReply ((s.handle op).run w).1 := by
  cases op with
  | log level message => rfl
  | report call => exact Surroundings.ordinarily_handle hs (.report call) w
  | inform listener news => exact Surroundings.ordinarily_handle hs (.inform listener news) w
  | _ => exact aside.elim

variable (hs : s.Uninterrupted)

omit hv in
theorem proceeds_unmoved (h : Abreast s view owner u v k w w') (left : (s.handle op).run w = (r, w))
    (right : (s.handle op').run w' = (r', w')) (matched : Matched fails (R k) r r') :
    Proceeds s view owner u v k w w' op op' fails R :=
  h.of_spared left right matched ⟨rfl, fun _ _ _ => rfl⟩ ⟨rfl, fun _ _ _ => rfl⟩

include hs

theorem proceeds_openSession (h : Abreast s view owner u v k w w') (config : Option SessionConfig) :
    Proceeds s view owner u v k w w' (.openSession config u) (.openSession config v) True
      fun k' n m => (n, m) ∈ k'.sessions := by
  rcases h.linked.live_cases with ⟨idle, idle'⟩ | ⟨n, m, live, live', pair⟩
  · obtain ⟨config', message, new⟩ := s.openSession_new config
    have left := new u w idle
    have right := new v w' idle'
    -- both runs try to create a session; neither attempt touches what the sessions so far show
    have views : ∀ (w : World ω), ∀ n ≤ w.sessions.created,
        view ((s.create w.sessions.next config').run (s.log .info message w.outer)).2 n = view w.outer n := by
      intro w n hn
      rw [hv.createConfined config' w.sessions.next _ n (Nat.ne_of_lt (Nat.lt_succ_of_le hn)), hv.log]
    have oldViews := views w
    have oldViews' := views w'
    obtain ⟨outcome, fresh⟩ := hv.create config' w.sessions.next w'.sessions.next (s.log .info message w.outer)
      (s.log .info message w'.outer)
    have ordinary := hs.create w.sessions.next config' (s.log .info message w.outer)
    cases hc : (s.create w.sessions.next config').run (s.log .info message w.outer) with
    | mk r x =>
      cases hc' : (s.create w'.sessions.next config').run (s.log .info message w'.outer) with
      | mk r' x' =>
        rw [hc] at left outcome fresh oldViews ordinary
        rw [hc'] at right outcome fresh oldViews'
        obtain rfl : r = r' := outcome
        cases r with
        | ok _ =>
          exact h.of_linked left right (List.subset_cons_self _ _) (.ok List.mem_cons_self)
            (.opened owner u w oldViews) (h.linked.opened oldViews oldViews' fresh)
        | error fault =>
          obtain ⟨refusal, y, left, shape, told⟩ := left
          obtain ⟨refusal', y', right, shape', told'⟩ := right
          have calm : fault.isInterrupt = false := ordinary fault rfl
          have alike : refusal.Alike refusal' := by
            refine ⟨?_, (told calm).1, (told' calm).1⟩
            rw [(told calm).2, (told' calm).2]
            exact .same _
          have logged := view_logged hv (shape.imp_right fun ⟨message, noted⟩ => ⟨_, message, noted⟩)
          have logged' := view_logged hv (shape'.imp_right fun ⟨message, noted⟩ => ⟨_, message, noted⟩)
          -- nothing was opened, and what the registry tore down had no live session
          have spares : Spares view none w ⟨w.sessions, y⟩ :=
            ⟨rfl, fun n hn _ => (congrFun logged n).trans (oldViews n hn)⟩
          have spares' : Spares view none w' ⟨w'.sessions, y'⟩ :=
            ⟨rfl, fun n hn _ => (congrFun logged' n).trans (oldViews' n hn)⟩
          have torn : ∀ (t : SessionTable) (u : UnitId),
              (t.discard u).created = t.created ∧ (t.discard u).live? u = none :=
            fun t u => ⟨t.created_discard u, by rw [SessionTable.live?_discard, if_pos rfl]⟩
          exact h.of_linked left right (List.Subset.refl _) (.error trivial alike)
            ((spares.moves fun _ none => by cases none).torn (torn _ u).1
              fun v _ => w.sessions.live?_discard_idle u v idle)
            ((h.linked.spared spares spares').torn (torn _ u) (torn _ v))
  · obtain ⟨message, left⟩ := s.openSession_live u w config live
    obtain ⟨message', right⟩ := s.openSession_live v w' config live'
    exact h.of_spared left right (.ok pair) (spares_log hv ..) (spares_log hv ..)

omit hv hs in
theorem proceeds_uniform {op : SharedOp} {act : Act ω op.Reply} {R : Ties → op.Reply → op.Reply → Prop}
    (h : Abreast s view owner u v k w w') (handled : s.handle op = World.zoom act) (ordinary : act.Ordinarily)
    (unseen : act.Uniform ∧ act.Quiet view) (same : ∀ a, R k a a) : Proceeds s view owner u v k w w' op op True R := by
  have matched : Matched True (R k) (act.run w.outer).1 (act.run w'.outer).1 := by
    rw [unseen.1 w.outer w'.outer]
    exact (matched_refl (ordinary w'.outer)).mono fun a _ equal => equal ▸ same a
  refine h.of_spared ?_ ?_ matched (spares_quiet unseen.2 w) (spares_quiet unseen.2 w')
  · rw [handled]
    rfl
  · rw [handled]
    rfl

omit hs in
theorem spares_browse (call : SessionCall) (n : SessionId) (w : World ω) :
    Spares view (some n) w ⟨w.sessions, ((s.browse n call).run w.outer).2⟩ :=
  ⟨rfl, fun m _ other => hv.browseConfined call n w.outer m fun same => other (congrArg some same.symm)⟩

theorem proceeds_browse (h : Abreast s view owner u v k w w') {n m : SessionId} (pair : (n, m) ∈ k.sessions)
    (call : SessionCall) :
    Proceeds s view owner u v k w w' (.browse n call) (.browse m call) True (EqualValues (α := call.Reply)) := by
  obtain ⟨outcome, same⟩ := hv.browse call n m w.outer w'.outer (h.linked.same n m pair)
  have left := spares_browse hv call n w
  have matched : Matched True Eq ((s.browse n call).run w.outer).1 ((s.browse m call).run w'.outer).1 := by
    rw [outcome]
    exact matched_refl (hs.browse m call w'.outer)
  refine h.of_linked rfl rfl (List.Subset.refl _) matched (left.moves fun n' same => ?_)
    (h.linked.driven pair left (spares_browse hv call m w') same)
  cases same
  exact h.linked.mine n m pair

/-- Closing quits the live sessions of both units, and leaves the slots torn down. -/
theorem closes_abreast (h : Abreast s view owner u v k w w') : ∃ x x',
    (s.close u).run w = (.ok (), ⟨w.sessions.tearDown u, x⟩) ∧
    (s.close v).run w' = (.ok (), ⟨w'.sessions.tearDown v, x'⟩) ∧
    Moves view owner u w owner ⟨w.sessions, x⟩ ∧
    Linked view owner u v k.sessions ⟨w.sessions, x⟩ ⟨w'.sessions, x'⟩ := by
  rcases h.linked.live_cases with ⟨idle, idle'⟩ | ⟨n, m, live, live', pair⟩
  · exact ⟨_, _, SessionBackend.close_idle hs.closes idle, SessionBackend.close_idle hs.closes idle', .refl w, h.linked⟩
  · obtain ⟨level, message, left⟩ := SessionBackend.close_live hs.closes live (hs.browse n .quit w.outer)
    obtain ⟨level', message', right⟩ := SessionBackend.close_live hs.closes live' (hs.browse m .quit w'.outer)
    obtain ⟨-, same⟩ := hv.browse .quit n m w.outer w'.outer (h.linked.same n m pair)
    have quits := spares_browse hv .quit n w
    have moves : Moves view owner u w owner ⟨w.sessions, ((s.browse n .quit).run w.outer).2⟩ :=
      quits.moves fun n' same => by cases same; exact h.linked.mine n m pair
    have linked := h.linked.driven pair quits (spares_browse hv .quit m w') same
    have noted := spares_log hv level message ⟨w.sessions, ((s.browse n .quit).run w.outer).2⟩
    have noted' := spares_log hv level' message' ⟨w'.sessions, ((s.browse m .quit).run w'.outer).2⟩
    exact ⟨_, _, left, right, moves.trans (noted.moves fun _ none => by cases none), linked.spared noted noted'⟩

theorem proceeds_close (h : Abreast s view owner u v k w w') :
    Proceeds s view owner u v k w w' (.closeSession u) (.closeSession v) False AnyValues := by
  obtain ⟨x, x', left, right, moves, linked⟩ := closes_abreast hv hs h
  have torn : ∀ (t : SessionTable) (u : UnitId), (t.tearDown u).created = t.created ∧ (t.tearDown u).live? u = none :=
    fun t u => ⟨t.created_tearDown u, by rw [SessionTable.live?_tearDown, if_pos rfl]⟩
  refine h.of_linked left right (List.Subset.refl _) (.ok trivial) (moves.torn (torn _ u).1 fun v other => ?_)
    (linked.torn (torn _ u) (torn _ v))
  rw [SessionTable.live?_tearDown, if_neg other]

theorem proceeds_reset (h : Abreast s view owner u v k w w') :
    Proceeds s view owner u v k w w' (.resetSession u) (.resetSession v) False AnyValues := by
  obtain ⟨x, x', left, right, moves, linked⟩ := closes_abreast hv hs h
  have torn : ∀ (t : SessionTable) (u : UnitId),
      ((t.tearDown u).erase u).created = t.created ∧ ((t.tearDown u).erase u).live? u = none :=
    fun t u => ⟨t.created_tearDown u, by rw [SessionTable.live?_erase, if_pos rfl]⟩
  refine h.of_linked (SessionBackend.reset_of_close left) (SessionBackend.reset_of_close right) (List.Subset.refl _)
    (.ok trivial) (moves.torn (torn _ u).1 fun v other => ?_) (linked.torn (torn _ u) (torn _ v))
  rw [SessionTable.live?_erase, if_neg other, SessionTable.live?_tearDown, if_neg other]

/-- A screenshot is saved in both runs or in neither. -/
theorem proceeds_onDemand (h : Abreast s view owner u v k w w') (directory : FilePath) (label : String) :
    ∃ r r' w₁ w₁', (Screenshots.onDemand s.toSessionBackend s.localNow directory label u).run w = (r, w₁) ∧
      (Screenshots.onDemand s.toSessionBackend s.localNow directory label v).run w' = (r', w₁') ∧
      Matched True (Option.Rel TextAlike) r r' ∧ Moves view owner u w owner w₁ ∧
      Linked view owner u v k.sessions w₁ w₁' := by
  rcases h.linked.live_cases with ⟨idle, idle'⟩ | ⟨n, m, live, live', pair⟩
  · obtain ⟨message, left⟩ := Screenshots.onDemand_idle s.toSessionBackend s.localNow directory label idle
    obtain ⟨message', right⟩ := Screenshots.onDemand_idle s.toSessionBackend s.localNow directory label idle'
    have noted := spares_log hv .error message w
    exact ⟨_, _, _, _, left, right, .ok .none, noted.moves (fun _ none => by cases none),
      h.linked.spared noted (spares_log hv .error message' w')⟩
  · obtain ⟨r, y, left, shape, outcome⟩ := Screenshots.onDemand_live s.toSessionBackend s.localNow directory label live
    obtain ⟨r', y', right, shape', outcome'⟩ :=
      Screenshots.onDemand_live s.toSessionBackend s.localNow directory label live'
    obtain ⟨saves, same⟩ := hv.shots directory label (s.localNow w.outer) (s.localNow w'.outer) n m w.outer w'.outer
      (h.linked.same n m pair)
    have ordinary := hs.browse n (.saveScreenshot (Screenshots.path directory label (s.localNow w.outer)).text) w.outer
    have ordinary' :=
      hs.browse m (.saveScreenshot (Screenshots.path directory label (s.localNow w'.outer)).text) w'.outer
    have seen := view_logged hv shape
    have seen' := view_logged hv shape'
    have spares : ∀ {n : SessionId} {w : World ω} {call : SessionCall} {y : ω},
        view y = view ((s.browse n call).run w.outer).2 → Spares view (some n) w ⟨w.sessions, y⟩ :=
      fun seen => ⟨rfl, fun m hm other => (congrFun seen m).trans ((spares_browse hv _ _ _).views m hm other)⟩
    -- saving is one call on both sessions, and what they show after it is the same
    have linked := h.linked.driven pair (spares seen) (spares seen')
      ((congrFun seen n).trans (same.trans (congrFun seen' m).symm))
    have moves : Moves view owner u w owner ⟨w.sessions, y⟩ :=
      (spares seen).moves fun n' same => by cases same; exact h.linked.mine n m pair
    refine ⟨r, r', _, _, left, right, ?_, moves, linked⟩
    rw [outcome ordinary, outcome' ordinary', saves]
    split
    · exact .ok (.some (.stamped directory label _ _))
    · exact .ok .none

theorem proceeds_captureOnDemand (h : Abreast s view owner u v k w w') (label : String) :
    Proceeds s view owner u v k w w' (.captureOnDemand label u) (.captureOnDemand label v) True
      fun _ => Option.Rel TextAlike := by
  have device : ∀ u, s.handle (.captureOnDemand label u) = s.captureOnDemand label u := fun _ => rfl
  unfold Surroundings.captureOnDemand at device
  cases hc : s.capture with
  | absent =>
    simp only [hc] at device
    exact proceeds_unmoved h (by rw [device]; rfl) (by rw [device]; rfl) (.ok .none)
  | screenshots directory =>
    simp only [hc] at device
    obtain ⟨r, r', w₁, w₁', left, right, matched, moves, linked⟩ := proceeds_onDemand hv hs h directory label
    exact h.of_linked ((congrArg (Act.run · w) (device u)).trans left)
      ((congrArg (Act.run · w') (device v)).trans right) (List.Subset.refl _) matched moves linked
  | other onDemand onFailure =>
    simp only [hc] at device
    have answers := (hv.capture onDemand onFailure hc).1 label u
    have quiet := ((hv.capture onDemand onFailure hc).1 label v).1
    refine h.of_spared ?_ ?_ (answers.2 v w.outer w'.outer) (spares_quiet answers.1 w) (spares_quiet quiet w')
    · rw [device]
      rfl
    · rw [device]
      rfl

theorem proceeds_captureOnFailure (h : Abreast s view owner u v k w w') (testId testName : String)
    {reason reason' : Option String} (alike : Option.Rel TextAlike reason reason') :
    Proceeds s view owner u v k w w' (.captureOnFailure testId testName reason u)
      (.captureOnFailure testId testName reason' v) True fun _ => Option.Rel TextAlike := by
  have device : ∀ reason u,
      s.handle (.captureOnFailure testId testName reason u) = s.captureOnFailure testId testName reason u :=
    fun _ _ => rfl
  unfold Surroundings.captureOnFailure at device
  -- what is done on a failure depends only on the way pictures are taken
  cases hc : s.capture with
  | absent =>
    simp only [hc] at device
    exact proceeds_unmoved h (by rw [device]; rfl) (by rw [device]; rfl) (.ok .none)
  | screenshots directory =>
    simp only [hc] at device
    rcases h.linked.live_cases with ⟨idle, idle'⟩ | ⟨n, m, live, live', pair⟩
    · obtain ⟨message, left⟩ :=
        Screenshots.onFailure_idle s.toSessionBackend s.localNow directory testId testName idle
      obtain ⟨message', right⟩ :=
        Screenshots.onFailure_idle s.toSessionBackend s.localNow directory testId testName idle'
      exact h.of_spared ((congrArg (Act.run · w) (device reason u)).trans left)
        ((congrArg (Act.run · w') (device reason' v)).trans right) (.ok .none) (spares_log hv ..) (spares_log hv ..)
    · have shot := Screenshots.onFailure_live s.toSessionBackend s.localNow directory testId testName live
      have shot' := Screenshots.onFailure_live s.toSessionBackend s.localNow directory testId testName live'
      obtain ⟨r, r', w₁, w₁', left, right, matched, moves, linked⟩ :=
        proceeds_onDemand hv hs h directory ("FAILURE_" ++ testId ++ "_" ++ testName)
      exact h.of_linked ((congrArg (Act.run · w) (device reason u)).trans (shot.trans left))
        ((congrArg (Act.run · w') (device reason' v)).trans (shot'.trans right)) (List.Subset.refl _) matched moves
        linked
  | other onDemand onFailure =>
    simp only [hc] at device
    have answers := (hv.capture onDemand onFailure hc).2 testId testName reason u
    have quiet := ((hv.capture onDemand onFailure hc).2 testId testName reason' v).1
    refine h.of_spared ?_ ?_ (answers.2 reason' v w.outer w'.outer alike) (spares_quiet answers.1 w)
      (spares_quiet quiet w')
    · rw [device]
      rfl
    · rw [device]
      rfl

omit hv hs in
theorem proceeds_currentSession (h : Abreast s view owner u v k w w') :
    Proceeds s view owner u v k w w' (.currentSession u) (.currentSession v) True
      fun k' n m => (n, m) ∈ k'.sessions := by
  have found : ∀ (u : UnitId) (w : World ω) (n : SessionId), w.sessions.live? u = some n →
      (s.handle (.currentSession u)).run w = (.ok n, w) := by
    intro u w n live
    show (SessionBackend.current u).run w = _
    rw [SessionBackend.current, Act.run_bind, SessionBackend.run_liveSession, live]
    rfl
  have absent : ∀ (u : UnitId) (w : World ω), w.sessions.live? u = none →
      (s.handle (.currentSession u)).run w = (.error (.absentSession u), w) := by
    intro u w idle
    show (SessionBackend.current u).run w = _
    rw [SessionBackend.current, Act.run_bind, SessionBackend.run_liveSession, idle]
    rfl
  rcases h.linked.live_cases with ⟨idle, idle'⟩ | ⟨n, m, live, live', pair⟩
  · exact proceeds_unmoved h (absent u w idle) (absent v w' idle') (.error trivial ⟨.same _, rfl, rfl⟩)
  · exact proceeds_unmoved h (found u w n live) (found v w' m live') (.ok pair)

omit hv hs in
theorem proceeds_isActive (h : Abreast s view owner u v k w w') :
    Proceeds s view owner u v k w w' (.isActive u) (.isActive v) False (EqualValues (α := Bool)) := by
  have active : (w.sessions.live? u).isSome = (w'.sessions.live? v).isSome := by
    rcases h.linked.live_cases with ⟨idle, idle'⟩ | ⟨n, m, live, live', -⟩
    · rw [idle, idle']
    · rw [live, live']
      rfl
  exact proceeds_unmoved h rfl rfl (.ok active)

omit hv hs in
theorem proceeds_isCurrent (h : Abreast s view owner u v k w w') {n m : SessionId} (pair : (n, m) ∈ k.sessions) :
    Proceeds s view owner u v k w w' (.isCurrent n u) (.isCurrent m v) False (EqualValues (α := Bool)) := by
  have current : (w.sessions.live? u == some n) = (w'.sessions.live? v == some m) := by
    rcases h.linked.live_cases with ⟨idle, idle'⟩ | ⟨n', m', live, live', pair'⟩
    · rw [idle, idle']
      rfl
    · rw [live, live', Bool.eq_iff_iff, beq_iff_eq, beq_iff_eq, Option.some.injEq, Option.some.injEq]
      exact h.linked.apart n' m' n m pair' pair
  exact proceeds_unmoved h rfl rfl (.ok current)

omit hv hs in
theorem proceeds_stopwatch (h : Abreast s view owner u v k w w') :
    Proceeds s view owner u v k w w' .stopwatch .stopwatch False fun k' t t' => (t, t') ∈ k'.readings := by
  refine ⟨⟨k.sessions, (s.stopwatch w.outer, s.stopwatch w'.outer) :: k.readings⟩, owner,
    ⟨List.Subset.refl _, List.subset_cons_self _ _⟩, .ok List.mem_cons_self, .refl w, h.linked, ?_⟩
  intro t t' read
  rcases List.mem_cons.1 read with new | old
  · cases new
    exact ⟨⟨w, .refl, rfl⟩, ⟨w', .refl, rfl⟩⟩
  · exact h.read t t' old

omit hv hs in
theorem Surroundings.Read.elapsed (ho : s.Orderly) {t : Float} (h : s.Read t w) : 0.0 ≤ s.stopwatch w.outer - t := by
  obtain ⟨w₀, later, rfl⟩ := h
  exact ho.steady w₀ w later

omit hs in
/-- Whatever two runs do in tandem, they go on abreast. -/
theorem Abreast.together (ho : s.Orderly) (h : Abreast s view owner u v k w w') (t : Tandem u v k op op' fails R) :
    Proceeds s view owner u v k w w' op op' fails R := by
  have hs := ho.toUninterrupted
  cases t with
  | now => exact proceeds_unmoved h rfl rfl (.ok trivial)
  | stopwatch => exact proceeds_stopwatch h
  | elapsed read =>
    obtain ⟨left, right⟩ := h.read _ _ read
    exact proceeds_unmoved h rfl rfl (.ok ⟨left.elapsed ho, right.elapsed ho⟩)
  | sleep seconds => exact proceeds_uniform h rfl (hs.sleep seconds) (hv.sleep seconds) fun _ => trivial
  | openSession config => exact proceeds_openSession hv hs h config
  | closeSession => exact proceeds_close hv hs h
  | resetSession => exact proceeds_reset hv hs h
  | currentSession => exact proceeds_currentSession h
  | isActive => exact proceeds_isActive h
  | isCurrent pair => exact proceeds_isCurrent h pair
  | browse pair call => exact proceeds_browse hv hs h pair call
  | captureOnDemand label => exact proceeds_captureOnDemand hv hs h label
  | captureOnFailure testId testName alike => exact proceeds_captureOnFailure hv hs h testId testName alike
  | loadInput testId => exact proceeds_uniform h rfl (hs.loadInput testId) (hv.loadInput testId) fun _ => rfl
  | loadKeywords testId => exact proceeds_uniform h rfl (hs.loadKeywords testId) (hv.loadKeywords testId) fun _ => rfl

omit hs in
theorem Abreast.left (h : Abreast s view owner u v k w w') (aside : op.IsAside) :
    Abreast s view owner u v k ((s.handle op).run w).2 w' where
  linked := h.linked.spared (spares_aside hv aside w) ⟨rfl, fun _ _ _ => rfl⟩
  read t t' read := ⟨(h.read t t' read).1.later (.step op .refl), (h.read t t' read).2⟩

omit hs in
theorem Abreast.right (h : Abreast s view owner u v k w w') (aside : op.IsAside) :
    Abreast s view owner u v k w ((s.handle op).run w').2 where
  linked := h.linked.spared ⟨rfl, fun _ _ _ => rfl⟩ (spares_aside hv aside w')
  read t t' read := ⟨(h.read t t' read).1, (h.read t t' read).2.later (.step op .refl)⟩

end

end KeywordSuite
