import Mathlib.Logic.Function.Basic
import KeywordSuite.Proofs.Session.Journal

/-!
# The registry as a map

The registry answers each call as a partial map from units to sessions does: the answer, the map after
the call and the sessions it creates or quits are read off the map before it. What became of every
session after any calls is then shown of the map alone.
-/

namespace KeywordSuite

/-! ## Calls -/

inductive RegistryCall
  | openSession (config : Option SessionConfig) (unit : UnitId)
  | close (unit : UnitId)
  | reset (unit : UnitId)
  | closeAll
  | current (unit : UnitId)
  | isActive (unit : UnitId)
  | isCurrent (session : SessionId) (unit : UnitId)
  | activeUnits

abbrev RegistryCall.Reply : RegistryCall → Type
  | .openSession .. | .current _ => SessionId
  | .close _ | .reset _ | .closeAll => Unit
  | .isActive _ | .isCurrent .. => Bool
  | .activeUnits => List UnitId

namespace SessionBackend

variable {ω : Type} (b : SessionBackend ω)

def serve : (call : RegistryCall) → Act (World ω) call.Reply
  | .openSession config unit => b.openSession config unit
  | .close unit => b.close unit
  | .reset unit => b.reset unit
  | .closeAll => b.closeAll
  | .current unit => current unit
  | .isActive unit => isActive unit
  | .isCurrent session unit => isCurrent session unit
  | .activeUnits => activeUnits

/-- The world that calls lead to, one after the other. -/
def after (calls : List RegistryCall) (w : World ω) : World ω :=
  calls.foldl (fun w call => ((b.serve call).run w).2) w

end SessionBackend

/-! ## The map -/

/-- The live session of each unit, and how many sessions were created. -/
structure SessionMap where
  live : UnitId → Option SessionId
  created : Nat

namespace SessionMap

def empty : SessionMap := ⟨fun _ => none, 0⟩

/-- A unit is mapped to the next session. -/
def opened (m : SessionMap) (unit : UnitId) : SessionMap :=
  ⟨Function.update m.live unit (some (m.created + 1)), m.created + 1⟩

def without (m : SessionMap) (unit : UnitId) : SessionMap := { m with live := Function.update m.live unit none }

end SessionMap

/--
How a call is answered, what it makes of the map, and which sessions it creates and quits. Whether a
session can be created is the backend's answer in the state that the call finds outside.
-/
inductive SessionMap.Answers {ω : Type} (b : SessionBackend ω) (m : SessionMap) (outer : ω) :
    (call : RegistryCall) → Except Fault call.Reply → SessionMap → List SessionEvent → Prop
  | found {config : Option SessionConfig} {u : UnitId} {n : SessionId} (live : m.live u = some n) :
      Answers b m outer (.openSession config u) (.ok n) m []
  | opened {config : Option SessionConfig} {u : UnitId} (idle : m.live u = none)
      (creates : (b.opening (config.getD b.defaultConfig) (m.created + 1) outer).1 = .ok ()) :
      Answers b m outer (.openSession config u) (.ok (m.created + 1)) (m.opened u) [.created (m.created + 1)]
  | refused {config : Option SessionConfig} {u : UnitId} {fault : Fault} (idle : m.live u = none)
      (fails : (b.opening (config.getD b.defaultConfig) (m.created + 1) outer).1 = .error fault) :
      Answers b m outer (.openSession config u)
        (.error (SessionBackend.openingFault (config.getD b.defaultConfig) u fault)) m []
  | closed (u : UnitId) : Answers b m outer (.close u) (.ok ()) (m.without u) (quitEvents (m.live u))
  | reset (u : UnitId) : Answers b m outer (.reset u) (.ok ()) (m.without u) (quitEvents (m.live u))
  | closedAll {units : List UnitId} (once : units.Nodup) (all : ∀ u n, m.live u = some n → u ∈ units) :
      Answers b m outer .closeAll (.ok ()) { m with live := fun _ => none }
        (units.flatMap fun u => quitEvents (m.live u))
  | current {u : UnitId} {n : SessionId} (live : m.live u = some n) : Answers b m outer (.current u) (.ok n) m []
  | absent {u : UnitId} (idle : m.live u = none) :
      Answers b m outer (.current u) (.error (.absentSession u)) m []
  | isActive (u : UnitId) : Answers b m outer (.isActive u) (.ok (m.live u).isSome) m []
  | isCurrent (n : SessionId) (u : UnitId) :
      Answers b m outer (.isCurrent n u) (.ok (decide (m.live u = some n))) m []
  | activeUnits {units : List UnitId} (once : units.Nodup) (domain : ∀ u, u ∈ units ↔ (m.live u).isSome) :
      Answers b m outer .activeUnits (.ok units) m []

/-! ## What became of the sessions -/

theorem quit_mem_quitEvents {x : Option SessionId} {n : SessionId} :
    .called n .quit ∈ quitEvents x ↔ x = some n := by
  cases x with
  | none => simp [quitEvents]
  | some k => simp [quitEvents, eq_comm]

theorem created_not_mem_quitEvents (x : Option SessionId) (n : SessionId) : .created n ∉ quitEvents x := by
  cases x <;> simp [quitEvents]

/-- Sessions are created once each; those in the map were never quit, and all others once. -/
structure SessionMap.Accounts (m : SessionMap) (journal : List SessionEvent) : Prop where
  born : ∀ n : Nat, .created n ∈ journal ↔ 1 ≤ n ∧ n ≤ m.created
  bornOnce : ∀ n, journal.count (.created n) ≤ 1
  held : ∀ u n, m.live u = some n → .created n ∈ journal
  apart : ∀ u v n, m.live u = some n → m.live v = some n → u = v
  kept : ∀ u n, m.live u = some n → .called n .quit ∉ journal
  quit : ∀ n, .created n ∈ journal → (∀ u, m.live u ≠ some n) → journal.count (.called n .quit) = 1
  unborn : ∀ n, .created n ∉ journal → .called n .quit ∉ journal

namespace SessionMap

variable {m : SessionMap} {journal : List SessionEvent} {u v : UnitId} {n : SessionId}

theorem live_opened (h : (m.opened u).live v = some n) : (v = u ∧ n = m.created + 1) ∨ (v ≠ u ∧ m.live v = some n) := by
  have live : (if v = u then some (m.created + 1) else m.live v) = some n := by
    rw [← Function.update_apply]
    exact h
  split at live
  · rename_i hv
    exact .inl ⟨hv, (Option.some.inj live).symm⟩
  · rename_i hv
    exact .inr ⟨hv, live⟩

theorem live_without : (m.without u).live v = some n ↔ v ≠ u ∧ m.live v = some n := by
  by_cases hv : v = u
  · subst hv
    simp [without]
  · simp [without, hv]

namespace Accounts

theorem nothing : empty.Accounts [] where
  born n := by
    have : ¬ (1 ≤ n ∧ n ≤ 0) := by omega
    simpa [empty] using this
  bornOnce n := by simp
  held u n live := by cases live
  apart u v n live := by cases live
  kept u n live := by cases live
  quit n born := by cases born
  unborn n _ := by simp

theorem opened (h : m.Accounts journal) (idle : m.live u = none) :
    (m.opened u).Accounts (journal ++ [.created (m.created + 1)]) := by
  have fresh : SessionEvent.created (m.created + 1) ∉ journal := by
    rw [h.born]
    omega
  constructor
  case born =>
    intro n
    have new : SessionEvent.created n = .created (m.created + 1) ↔ n = m.created + 1 := by simp
    rw [List.mem_append, List.mem_singleton, h.born, new]
    show _ ↔ 1 ≤ n ∧ n ≤ m.created + 1
    omega
  case bornOnce =>
    intro n
    rw [List.count_append]
    by_cases hn : n = m.created + 1
    · have before := List.count_eq_zero_of_not_mem fresh
      have once : ([.created n] : List SessionEvent).count (.created n) = 1 := List.count_singleton_self
      subst hn
      omega
    · rw [List.count_eq_zero_of_not_mem (l := [_]) (by simpa using hn)]
      exact h.bornOnce n
  case held =>
    intro v n live
    rcases live_opened live with ⟨-, rfl⟩ | ⟨-, old⟩
    · exact List.mem_append_right _ List.mem_cons_self
    · exact List.mem_append_left _ (h.held v n old)
  case apart =>
    intro v v' n live live'
    -- whoever held a session before holds one that was created before, so never the new one
    have notNew : ∀ w, m.live w ≠ some (m.created + 1) := fun w live => fresh (h.held w _ live)
    rcases live_opened live with ⟨here, new⟩ | ⟨-, old⟩ <;> rcases live_opened live' with ⟨here', new'⟩ | ⟨-, old'⟩
    · exact here.trans here'.symm
    · exact absurd (new ▸ old') (notNew v')
    · exact absurd (new' ▸ old) (notNew v)
    · exact h.apart v v' n old old'
  case kept =>
    intro v n live
    have unquit : SessionEvent.called n .quit ∉ journal := by
      rcases live_opened live with ⟨-, rfl⟩ | ⟨-, old⟩
      · exact h.unborn _ fresh
      · exact h.kept v n old
    simpa using unquit
  case quit =>
    intro n born away
    have elsewhere : n ≠ m.created + 1 := by
      rintro rfl
      exact away u (Function.update_self ..)
    have old : SessionEvent.created n ∈ journal := by simpa [elsewhere] using born
    have gone : ∀ v, m.live v ≠ some n := by
      intro v live
      have hv : v ≠ u := fun same => by rw [same, idle] at live; cases live
      exact away v ((Function.update_of_ne hv ..).trans live)
    rw [List.count_append, h.quit n old gone]
    rfl
  case unborn =>
    intro n unborn
    have old : SessionEvent.created n ∉ journal := fun mem => unborn (List.mem_append_left _ mem)
    simpa using h.unborn n old

theorem without (h : m.Accounts journal) (u : UnitId) :
    (m.without u).Accounts (journal ++ quitEvents (m.live u)) := by
  have born : ∀ n, .created n ∈ journal ++ quitEvents (m.live u) ↔ .created n ∈ journal := by
    intro n
    simp [created_not_mem_quitEvents]
  constructor
  case born => exact fun n => (born n).trans (h.born n)
  case bornOnce =>
    intro n
    rw [List.count_append, List.count_eq_zero_of_not_mem (created_not_mem_quitEvents _ n)]
    exact h.bornOnce n
  case held =>
    intro v n live
    exact (born n).2 (h.held v n (live_without.1 live).2)
  case apart =>
    intro v v' n live live'
    exact h.apart v v' n (live_without.1 live).2 (live_without.1 live').2
  case kept =>
    intro v n live
    obtain ⟨other, before⟩ := live_without.1 live
    rw [List.mem_append, quit_mem_quitEvents]
    rintro (past | now)
    · exact h.kept v n before past
    · exact other (h.apart v u n before now)
  case quit =>
    intro n old away
    rw [born] at old
    rw [List.count_append]
    -- the session of the unit is quit now, any other one that nobody holds was quit before
    by_cases here : m.live u = some n
    · rw [List.count_eq_zero_of_not_mem (h.kept u n here), here, quitEvents, List.count_singleton_self]
    · have gone : ∀ v, m.live v ≠ some n :=
        fun v live => away v (live_without.2 ⟨fun same => here (same ▸ live), live⟩)
      rw [h.quit n old gone, List.count_eq_zero_of_not_mem (quit_mem_quitEvents.not.2 here)]
  case unborn =>
    intro n unborn
    rw [born] at unborn
    rw [List.mem_append, quit_mem_quitEvents]
    rintro (past | now)
    · exact h.unborn n unborn past
    · exact unborn (h.held u n now)

/-- Units that are left without a session one after the other. -/
theorem withoutAll : ∀ {units : List UnitId} {m : SessionMap} {journal : List SessionEvent}, units.Nodup →
    m.Accounts journal → SessionMap.Accounts { m with live := fun v => if v ∈ units then none else m.live v }
      (journal ++ units.flatMap fun u => quitEvents (m.live u))
  | [], m, journal, _, h => by simpa using h
  | u :: units, m, journal, once, h => by
    obtain ⟨new, once⟩ := List.nodup_cons.1 once
    have others : (units.flatMap fun v => quitEvents ((m.without u).live v)) =
        units.flatMap fun v => quitEvents (m.live v) := by
      rw [List.flatMap_def, List.flatMap_def]
      congr 1
      refine List.map_congr_left fun v mem => ?_
      have hv : v ≠ u := fun same => new (same ▸ mem)
      exact congrArg quitEvents (Function.update_of_ne hv ..)
    have lives : (fun v => if v ∈ units then none else (m.without u).live v) =
        fun v => if v ∈ u :: units then none else m.live v := by
      funext v
      by_cases hv : v = u
      · simp [hv, SessionMap.without]
      · simp [hv, SessionMap.without]
    have rest := withoutAll once (h.without u)
    rw [others, lives, List.append_assoc] at rest
    exact rest

theorem answered {ω : Type} {b : SessionBackend ω} {outer : ω} {call : RegistryCall} {r : Except Fault call.Reply}
    {m' : SessionMap} {events : List SessionEvent} (h : m.Accounts journal)
    (answers : m.Answers b outer call r m' events) : m'.Accounts (journal ++ events) := by
  cases answers with
  | found | refused | current | absent | isActive | isCurrent | activeUnits => rwa [List.append_nil]
  | opened idle _ => exact h.opened idle
  | closed u => exact h.without u
  | reset u => exact h.without u
  | @closedAll units once all =>
    have lives : (fun v => if v ∈ units then none else m.live v) = fun _ => none := by
      funext v
      split
      · rfl
      · rename_i away
        cases hv : m.live v with
        | none => rfl
        | some n => exact absurd (all v n hv) away
    have rest := h.withoutAll once
    rwa [lives] at rest

end Accounts

end SessionMap

/-! ## The slots -/

namespace SessionTable

def toMap (t : SessionTable) : SessionMap := ⟨t.live?, t.created⟩

variable (t : SessionTable) (u : UnitId)

theorem toMap_add : (t.add u).toMap = t.toMap.opened u := by
  unfold toMap SessionMap.opened
  congr 1
  funext v
  rw [live?_add, Function.update_apply]
  rfl

theorem toMap_discard (h : t.live? u = none) : (t.discard u).toMap = t.toMap := by
  unfold toMap
  rw [created_discard]
  congr 1
  funext v
  exact t.live?_discard_idle u v h

theorem toMap_tearDown : (t.tearDown u).toMap = t.toMap.without u := by
  unfold toMap SessionMap.without
  rw [created_tearDown]
  congr 1
  funext v
  rw [live?_tearDown, Function.update_apply]

theorem toMap_reset : ((t.tearDown u).erase u).toMap = t.toMap.without u := by
  rw [← toMap_tearDown]
  unfold toMap
  congr 1
  funext v
  rw [live?_reset, live?_tearDown]

theorem units_setSlot (x : SessionSlot) : ∀ slots : List (UnitId × SessionSlot),
    (setSlot slots u x).map (·.1) =
      if u ∈ slots.map (·.1) then slots.map (·.1) else slots.map (·.1) ++ [u]
  | [] => rfl
  | (k, y) :: rest => by
    unfold setSlot
    by_cases hk : k = u
    · simp [hk]
    · have ih := units_setSlot x rest
      have hu : u ≠ k := fun same => hk same.symm
      simp only [hk, if_false, List.map_cons, ih, List.mem_cons, hu, false_or]
      split <;> rfl

theorem nodup_setSlot {slots : List (UnitId × SessionSlot)} (h : (slots.map (·.1)).Nodup) (x : SessionSlot) :
    ((setSlot slots u x).map (·.1)).Nodup := by
  rw [units_setSlot]
  split
  · exact h
  · rename_i new
    rw [List.nodup_append]
    refine ⟨h, by simp, ?_⟩
    rintro v mem _ last rfl
    exact new (List.mem_singleton.1 last ▸ mem)

variable {t} (h : t.units.Nodup)
include h

theorem nodup_add : (t.add u).units.Nodup := nodup_setSlot u h _

theorem nodup_adjust (f : SessionSlot → SessionSlot) : (t.adjust u f).units.Nodup := by
  unfold adjust
  split
  · exact nodup_setSlot u h _
  · exact h

theorem nodup_erase : (t.erase u).units.Nodup := h.sublist (List.filter_sublist.map _)

theorem nodup_resetAll (units : List UnitId) : (t.resetAll units).units.Nodup := by
  induction units generalizing t with
  | nil => exact h
  | cons u rest ih => exact ih (nodup_erase u (nodup_adjust u h _))

omit h in
theorem lookup_eq_some_iff {x : SessionSlot} : ∀ {slots : List (UnitId × SessionSlot)}, (slots.map (·.1)).Nodup →
    (List.lookup u slots = some x ↔ (u, x) ∈ slots)
  | [], _ => by simp
  | (k, y) :: rest, once => by
    obtain ⟨new, once⟩ := List.nodup_cons.1 once
    rw [lookup_slot, List.mem_cons, Prod.mk.injEq]
    by_cases hk : u = k
    · have away : (u, x) ∉ rest := fun mem => new (hk ▸ List.mem_map_of_mem (f := (·.1)) mem)
      simp [hk, hk ▸ away, eq_comm]
    · simp [hk, lookup_eq_some_iff once]

theorem mem_activeUnits : u ∈ t.activeUnits ↔ (t.live? u).isSome := by
  have slot : ∀ x, t.slot? u = some x ↔ (u, x) ∈ t.slots := fun x => lookup_eq_some_iff u h
  unfold activeUnits live?
  rw [List.mem_map]
  constructor
  · rintro ⟨⟨_, x⟩, mem, rfl⟩
    obtain ⟨mem, live⟩ := List.mem_filter.1 mem
    rw [(slot x).2 mem]
    exact live
  · intro live
    cases hx : t.slot? u with
    | none => rw [hx] at live; cases live
    | some x =>
      rw [hx] at live
      exact ⟨(u, x), List.mem_filter.2 ⟨(slot x).1 hx, live⟩, rfl⟩

theorem nodup_activeUnits : t.activeUnits.Nodup := h.sublist (List.filter_sublist.map _)

theorem mem_units {n : SessionId} (live : t.live? u = some n) : u ∈ t.units := by
  have active : u ∈ t.activeUnits := by
    rw [mem_activeUnits u h, live]
    rfl
  exact (List.filter_sublist.map _).subset active

end SessionTable

/-! ## Calls answered -/

namespace SessionBackend

variable {ω : Type} {b : SessionBackend ω} {w : World (Recorded ω)}

/-- From one world to another, a call is answered as the map answers it, and the slots stay apart. -/
def Follows (b : SessionBackend ω) (w : World (Recorded ω)) (call : RegistryCall) (r : Except Fault call.Reply)
    (w' : World (Recorded ω)) : Prop :=
  w'.sessions.units.Nodup ∧ ∃ events, w'.outer.journal = w.outer.journal ++ events ∧
    w.sessions.toMap.Answers b w.outer.outer call r w'.sessions.toMap events

theorem Follows.still (h : w.sessions.units.Nodup) {call : RegistryCall} {r : Except Fault call.Reply}
    (answers : w.sessions.toMap.Answers b w.outer.outer call r w.sessions.toMap []) : Follows b w call r w :=
  ⟨h, [], (List.append_nil _).symm, answers⟩

theorem follows_openSession (creates : ∀ n config, (b.create n config).Ordinarily) (h : w.sessions.units.Nodup)
    (config : Option SessionConfig) (u : UnitId) :
    Follows b w (.openSession config u) ((b.recorded.openSession config u).run w).1
      ((b.recorded.openSession config u).run w).2 := by
  cases hl : w.sessions.live? u with
  | some n =>
    obtain ⟨message, run_eq⟩ := b.recorded.openSession_live u w config hl
    rw [run_eq]
    exact ⟨h, [], (List.append_nil _).symm, .found hl⟩
  | none =>
    have run_eq := b.recorded.openSession_idle u w config hl
    have calm := creates w.sessions.next (config.getD b.defaultConfig)
      (b.log .info ("Initializing " ++ (config.getD b.defaultConfig).browser ++ " browser") w.outer.outer)
    rw [opening_recorded] at run_eq
    rw [run_eq]
    have same : b.recorded.defaultConfig = b.defaultConfig := rfl
    rw [same]
    cases opened : b.opening (config.getD b.defaultConfig) w.sessions.next w.outer.outer with
    | mk r x =>
      cases r with
      | ok _ =>
        refine ⟨SessionTable.nodup_add u h, [.created w.sessions.next], rfl, ?_⟩
        rw [SessionTable.toMap_add]
        exact .opened hl (congrArg Prod.fst opened)
      | error fault =>
        have ordinary : ¬ fault.isInterrupt = true := by
          rw [calm fault (congrArg Prod.fst opened)]
          exact Bool.false_ne_true
        dsimp only
        rw [if_neg ordinary]
        refine ⟨SessionTable.nodup_adjust u h _, [], rfl, ?_⟩
        rw [SessionTable.toMap_discard _ _ hl]
        exact .refused hl (congrArg Prod.fst opened)

section

variable (closes : b.closeFault = none) (quits : ∀ n, (b.browse n .quit).Ordinarily)
include closes quits

/-- What closing the sessions of some units tells. -/
def quitsOf (t : SessionTable) (units : List UnitId) : List SessionEvent := units.flatMap fun u => quitEvents (t.live? u)

/-- Every unit is reset; the journal tells of the sessions that were live at the start. -/
theorem closeAll_recorded (h : w.sessions.units.Nodup) : ∃ x, b.recorded.closeAll.run w = (.ok (),
    ⟨w.sessions.resetAll w.sessions.units, ⟨x, w.outer.journal ++ quitsOf w.sessions w.sessions.units⟩⟩) := by
  obtain ⟨⟨t, ⟨x, journal⟩⟩, resets, -, emptied, told⟩ := Act.run_forIn b.recorded.reset
    (fun units w' => units.Nodup ∧ w'.sessions.resetAll units = w.sessions.resetAll w.sessions.units ∧
      w'.outer.journal ++ quitsOf w'.sessions units = w.outer.journal ++ quitsOf w.sessions w.sessions.units)
    (fun u rest w' kept => by
      obtain ⟨once, sessions, told⟩ := kept
      obtain ⟨new, once⟩ := List.nodup_cons.1 once
      obtain ⟨x, reset⟩ := reset_recorded closes quits u w'
      refine ⟨_, reset, once, sessions, Eq.trans ?_ told⟩
      have others : quitsOf ((w'.sessions.tearDown u).erase u) rest = quitsOf w'.sessions rest := by
        unfold quitsOf
        rw [List.flatMap_def, List.flatMap_def]
        congr 1
        refine List.map_congr_left fun v mem => ?_
        have hv : v ≠ u := fun same => new (same ▸ mem)
        rw [SessionTable.live?_reset, if_neg hv]
      dsimp only
      rw [others, List.append_assoc]
      rfl) w.sessions.units w ⟨h, rfl, rfl⟩
  obtain rfl : t = w.sessions.resetAll w.sessions.units := emptied
  obtain rfl : journal = w.outer.journal ++ quitsOf w.sessions w.sessions.units := (List.append_nil _).symm.trans told
  refine ⟨x, ?_⟩
  unfold closeAll
  rw [Act.run_bind, Act.run_get]
  dsimp only
  rw [Act.run_bind, resets]
  rfl

theorem follows_closeAll (h : w.sessions.units.Nodup) :
    Follows b w .closeAll ((b.recorded.closeAll).run w).1 ((b.recorded.closeAll).run w).2 := by
  obtain ⟨x, all⟩ := closeAll_recorded closes quits h
  rw [all]
  refine ⟨SessionTable.nodup_resetAll h _, _, rfl, ?_⟩
  have emptied : (w.sessions.resetAll w.sessions.units).toMap = { w.sessions.toMap with live := fun _ => none } := by
    unfold SessionTable.toMap
    rw [SessionTable.created_resetAll]
    congr 1
    funext v
    exact w.sessions.live?_resetAll_units v
  rw [emptied]
  exact .closedAll h fun u n => SessionTable.mem_units u h

/-- What one call does, whatever the slots and the world outside. -/
theorem follows_serve (creates : ∀ n config, (b.create n config).Ordinarily) (h : w.sessions.units.Nodup)
    (call : RegistryCall) :
    Follows b w call ((b.recorded.serve call).run w).1 ((b.recorded.serve call).run w).2 := by
  cases call with
  | openSession config u => exact follows_openSession creates h config u
  | close u =>
    obtain ⟨x, run_eq⟩ := close_recorded closes quits u w
    simp only [serve, run_eq]
    refine ⟨SessionTable.nodup_adjust u h _, _, rfl, ?_⟩
    rw [SessionTable.toMap_tearDown]
    exact .closed u
  | reset u =>
    obtain ⟨x, run_eq⟩ := reset_recorded closes quits u w
    simp only [serve, run_eq]
    refine ⟨SessionTable.nodup_erase u (SessionTable.nodup_adjust u h _), _, rfl, ?_⟩
    rw [SessionTable.toMap_reset]
    exact .reset u
  | closeAll => exact follows_closeAll closes quits h
  | current u =>
    simp only [serve, current, Act.run_bind, run_liveSession]
    cases hl : w.sessions.live? u with
    | some n => exact .still h (.current hl)
    | none => exact .still h (.absent hl)
  | isActive u => exact .still h (.isActive u)
  | isCurrent n u =>
    have same : (w.sessions.live? u == some n) = decide (w.sessions.live? u = some n) := by
      rw [Bool.eq_iff_iff]
      simp
    simp only [serve, isCurrent, Act.run_bind, run_liveSession, Act.run_pure, same]
    exact .still h (.isCurrent n u)
  | activeUnits =>
    exact .still h (.activeUnits (SessionTable.nodup_activeUnits h) fun u => SessionTable.mem_activeUnits u h)

/-- The slots stay apart and every session is accounted for, whatever is called. -/
theorem accounts_after (creates : ∀ n config, (b.create n config).Ordinarily) :
    ∀ (calls : List RegistryCall) (w : World (Recorded ω)), w.sessions.units.Nodup →
      w.sessions.toMap.Accounts w.outer.journal →
      (b.recorded.after calls w).sessions.units.Nodup ∧
        (b.recorded.after calls w).sessions.toMap.Accounts (b.recorded.after calls w).outer.journal
  | [], w, distinct, accounts => ⟨distinct, accounts⟩
  | call :: calls, w, distinct, accounts => by
    obtain ⟨distinct', events, journal, answers⟩ := follows_serve closes quits creates distinct call
    have accounts' := accounts.answered answers
    rw [← journal] at accounts'
    exact accounts_after creates calls _ distinct' accounts'

end

end SessionBackend

open SessionBackend

/--
Whatever was called before, the next call is answered as the map of the live sessions answers it, and
every session is accounted for by that map. Where a session is live, opening one leaves a line in the log
and nothing else.
-/
theorem registry_refines_map {ω : Type} {b : SessionBackend ω} (closes : b.closeFault = none)
    (creates : ∀ n config, (b.create n config).Ordinarily) (quits : ∀ n, (b.browse n .quit).Ordinarily)
    (start : ω) (calls : List RegistryCall) :
    let w := b.recorded.after calls ⟨.empty, ⟨start, []⟩⟩
    w.sessions.toMap.Accounts w.outer.journal ∧
      (∀ call : RegistryCall, ∃ events,
        ((b.recorded.serve call).run w).2.outer.journal = w.outer.journal ++ events ∧
        w.sessions.toMap.Answers b w.outer.outer call ((b.recorded.serve call).run w).1
          ((b.recorded.serve call).run w).2.sessions.toMap events) ∧
      ∀ config u n, w.sessions.live? u = some n → ∃ message,
        (b.recorded.serve (.openSession config u)).run w =
          (.ok n, { w with outer := b.recorded.log .warning message w.outer }) := by
  intro w
  have distinct : SessionTable.empty.units.Nodup := List.nodup_nil
  obtain ⟨apart, accounts⟩ := accounts_after closes quits creates calls ⟨.empty, ⟨start, []⟩⟩ distinct .nothing
  exact ⟨accounts, fun call => (follows_serve closes quits creates apart call).2,
    fun config u n live => b.recorded.openSession_live u w config live⟩

/-- Every other session cannot be created, and none can be quit. -/
def SessionBackend.fitful : SessionBackend Bool where
  log _ _ tired := tired
  create _ _ := Act.make fun tired => (if tired then .error (.plain .runtime "Out of breath") else .ok (), !tired)
  browse _ _ := throw (.plain .runtime "No answer")
  defaultConfig := {}

theorem registry_refines_map_fitful :
    let w := fitful.recorded.after [.openSession none .calling, .openSession none (.worker 1), .reset .calling,
      .openSession none .calling, .close (.worker 1)] ⟨.empty, ⟨false, []⟩⟩
    w.sessions.toMap.Accounts w.outer.journal ∧ w.outer.journal = [.created 1, .called 1 .quit, .created 2] ∧
      w.sessions.live? .calling = some 2 ∧ w.sessions.live? (.worker 1) = none := by
  refine ⟨(registry_refines_map rfl ?_ ?_ false _).1, rfl, rfl, rfl⟩
  · intro n config tired fault fails
    cases tired with
    | true => cases fails; rfl
    | false => cases fails
  · exact fun n => Act.ordinarily_throw rfl

end KeywordSuite
