import Mathlib.Data.List.Nodup
import Mathlib.Data.Prod.Basic
import KeywordSuite.Proofs.Browser.Trace
import KeywordSuite.Proofs.Entries

/-!
# The handles of sessions

A factory creates sessions, and those it returns are quit, in any order and any number of times. Each call only touches
the handles of its own session, and a session that has been quit has none left; so no handle is released twice.
-/

namespace KeywordSuite

/-! ## A factory -/

def Traced.kept {ε : Type} : Place (Traced ε) SessionFleet := ⟨Traced.fleet, fun fleet x => { x with fleet }⟩

namespace Engine

variable {ε : Type} (engine : Engine ε)

def backend (session : SessionId) : SessionBackend (Host (Traced ε)) :=
  SessionFleet.backend (engine.traced session) Traced.kept {}

def create (config : SessionConfig) : Act (Host (Traced ε)) SessionId := do
  let session := (← get).outer.begun + 1
  modify fun h => { h with outer := { h.outer with begun := session } }
  (engine.backend session).create session config
  return session

def quit (session : SessionId) : Act (Host (Traced ε)) Unit := (engine.backend session).browse session .quit

end Engine

/-- What is asked of a factory and of the sessions it has returned. -/
inductive FactoryCall
  | create (config : SessionConfig)
  | quit (session : SessionId)
  deriving DecidableEq

namespace Engine

variable {ε : Type} (engine : Engine ε)

def step (h : Host (Traced ε)) : FactoryCall → Host (Traced ε)
  | .create config => ((engine.create config).run h).2
  | .quit session => ((engine.quit session).run h).2

def after (calls : List FactoryCall) (h : Host (Traced ε)) : Host (Traced ε) := calls.foldl engine.step h

end Engine

/-! ## The sessions of a factory -/

section

variable {ε : Type} {engine : Engine ε} {n : SessionId} {h h' : Host (Traced ε)}

def Traced.parts (x : Traced ε) (session : SessionId) : SessionParts := (List.lookup session x.fleet).getD {}

/-- Something asked of a session adds events to the trace, and changes what that session has. -/
structure Visits (n : SessionId) (h h' : Host (Traced ε)) (events : List EngineEvent) (parts : SessionParts) : Prop where
  begun : h'.outer.begun = h.outer.begun
  trace : h'.outer.trace = h.outer.trace ++ events
  own : h'.outer.parts n = parts
  others : ∀ m, m ≠ n → h'.outer.parts m = h.outer.parts m

theorem exists_pilot {α : Type} {act : Act (Piloted (Traced ε)) α} {r : Except Fault α} {parts : SessionParts}
    {events : List EngineEvent} (run : act.run ⟨h.outer.parts n, h⟩ = (r, ⟨parts, h'⟩)) (added : Adds h h' events) :
    ∃ h'', (SessionFleet.pilot Traced.kept n act).run h = (r, h'') ∧ Visits n h h'' events parts := by
  have pilots : (SessionFleet.pilot Traced.kept n act).run h =
      ((act.run ⟨h.outer.parts n, h⟩).1, { (act.run ⟨h.outer.parts n, h⟩).2.host with
        outer := Traced.kept.set ((n, (act.run ⟨h.outer.parts n, h⟩).2.parts) ::
          ((act.run ⟨h.outer.parts n, h⟩).2.host.outer.fleet).filter fun entry => entry.1 ≠ n)
          (act.run ⟨h.outer.parts n, h⟩).2.host.outer }) := rfl
  rw [run] at pilots
  refine ⟨_, pilots, added.begun, added.trace, ?_, fun m other => ?_⟩
  · show (List.lookup n ((n, parts) :: _)).getD {} = parts
    rw [List.lookup_cons_self]
    rfl
  · show (List.lookup m ((n, parts) :: h'.outer.fleet.filter fun entry => entry.1 ≠ n)).getD {} = _
    rw [List.lookup_cons, beq_false_of_ne other, lookup_filter_ne, if_neg other, added.fleet]
    rfl

end

namespace Engine

section

variable {ε : Type} {engine : Engine ε} {n : SessionId} (ordinary : ∀ call, (engine call).Ordinarily)
include ordinary

theorem exists_quit (n : SessionId) (h : Host (Traced ε)) :
    ∃ r h' events told, (engine.quit n).run h = (r, h') ∧ Visits n h h' events {} ∧ (r = .ok () ↔ told = []) ∧
      Closes n (h.outer.parts n).closing events told := by
  obtain ⟨r, g, events, told, run, -, ends, added, closes⟩ :=
    Piloted.exists_quit (n := n) ordinary ⟨h.outer.parts n, h⟩
  obtain ⟨h', pilots, visits⟩ := exists_pilot run added
  exact ⟨r, h', events, told, pilots, visits, ends, closes⟩

/-- Whatever was begun before, a session is created with a number of its own. -/
theorem exists_create (c : SessionConfig) (h : Host (Traced ε)) :
    ∃ r h' events, (engine.create c).run h = (r, h') ∧ Creation (h.outer.begun + 1) c r events ∧
      h'.outer.begun = h.outer.begun + 1 ∧ h'.outer.trace = h.outer.trace ++ events ∧
      h'.outer.parts (h.outer.begun + 1) = (if r.isOk then .whole else {}) ∧
      ∀ m, m ≠ h.outer.begun + 1 → h'.outer.parts m = h.outer.parts m := by
  let h₀ : Host (Traced ε) := { h with outer := { h.outer with begun := h.outer.begun + 1 } }
  obtain ⟨r, parts, g, events, run, added, creation, left⟩ :=
    Piloted.exists_create (n := h.outer.begun + 1) ordinary c h₀
  have recreates : (do
      Piloted.change fun _ => {}
      Piloted.create (engine.traced (h.outer.begun + 1)) c : Act (Piloted (Traced ε)) Unit).run
        ⟨h₀.outer.parts (h.outer.begun + 1), h₀⟩ = (r, ⟨parts, g⟩) := by
    rw [Act.run_bind_of_ok (Piloted.run_change _ _)]
    exact run
  obtain ⟨h', pilots, visits⟩ := exists_pilot recreates added
  have created : (engine.create c).run h = (r.map fun _ => h.outer.begun + 1, h') := by
    unfold Engine.create
    rw [Act.run_bind_of_ok (Act.run_get h), Act.run_bind_of_ok (Act.run_modify _ h)]
    rw [Act.run_bind]
    have same : ((engine.backend (h.outer.begun + 1)).create (h.outer.begun + 1) c).run h₀ = (r, h') := pilots
    rw [same]
    cases r <;> rfl
  refine ⟨_, h', events, created, creation, visits.begun, visits.trace, ?_, visits.others⟩
  rw [visits.own, left]
  cases r <;> rfl

end

end Engine

/-! ## Every handle once -/

theorem released_worked (n : SessionId) (calls : List EngineCall) :
    (calls.map (⟨n, ·, none⟩)).filterMap EngineEvent.released = (calls.filterMap EngineCall.releases).map (n, ·) := by
  rw [List.filterMap_map, List.map_filterMap]
  rfl

theorem obtained_worked (n : SessionId) (calls : List EngineCall) :
    (calls.map (⟨n, ·, none⟩)).filterMap EngineEvent.obtained = (calls.filterMap EngineCall.obtains).map (n, ·) := by
  rw [List.filterMap_map, List.map_filterMap]
  rfl

section

variable {n : SessionId} {c : SessionConfig} {r : Except Fault SessionId} {events : List EngineEvent}

theorem Creation.own (creation : Creation n c r events) : ∀ e ∈ events, e.session = n := by
  cases creation with
  | opened =>
    intro e there
    obtain ⟨_, _, rfl⟩ := List.mem_map.1 there
    rfl
  | failed reached worked own released =>
    intro e there
    rcases List.mem_append.1 there with first | last
    · rw [worked] at first
      obtain ⟨_, _, rfl⟩ := List.mem_map.1 first
      rfl
    · rcases List.mem_cons.1 last with rfl | closed
      · rfl
      · exact own e closed

/-- Creating a session releases no handle twice, and none at all if the session is returned. -/
theorem Creation.releases (creation : Creation n c r events) : ∃ handles : List EngineHandle,
    events.filterMap EngineEvent.released = handles.map (n, ·) ∧ handles.Nodup ∧ (r.isOk → handles = []) := by
  have none_released : c.opening.filterMap EngineCall.releases = [] := rfl
  cases creation with
  | opened => exact ⟨[], by rw [released_worked, none_released], List.nodup_nil, fun _ => rfl⟩
  | @failed before failing rest fault _ closed reached worked own released =>
    rw [reached, List.filterMap_append, List.append_eq_nil_iff, List.filterMap_cons] at none_released
    have opening : (before.filterMap EngineCall.obtains).Nodup := by
      have whole : (c.opening.filterMap EngineCall.obtains).Nodup := by
        show [EngineHandle.engine, .browser, .context, .page].Nodup
        decide
      rw [reached, List.filterMap_append] at whole
      exact whole.sublist (List.sublist_append_left ..)
    have fails : (⟨n, failing, some fault⟩ : EngineEvent).released = none := by
      unfold EngineEvent.released
      dsimp only
      cases hf : failing.releases with
      | none => rfl
      | some handle =>
        rw [hf] at none_released
        cases none_released.2
    refine ⟨(before.filterMap EngineCall.obtains).reverse, ?_, List.nodup_reverse.2 opening, nofun⟩
    rw [worked, List.filterMap_append, List.filterMap_cons, fails, released, worked, obtained_worked, released_worked,
      none_released.1, List.map_reverse]
    rfl

end

section

variable {ε : Type} {n : SessionId} {h h' : Host (Traced ε)} {events : List EngineEvent}

/-- No handle was released twice; a session has all of its handles, none of them released yet, or it has none. -/
structure Traced.Accounted (x : Traced ε) : Prop where
  once : (x.trace.filterMap EngineEvent.released).Nodup
  known : ∀ e ∈ x.trace, e.session ≤ x.begun
  unbegun : ∀ n, x.begun < n → x.parts n = {}
  whole : ∀ n, x.parts n = {} ∨
    x.parts n = .whole ∧ ∀ handle, (n, handle) ∉ x.trace.filterMap EngineEvent.released

theorem nodup_released {trace : List EngineEvent} {handles : List EngineHandle}
    (before : (trace.filterMap EngineEvent.released).Nodup) (once : handles.Nodup)
    (new : ∀ handle ∈ handles, (n, handle) ∉ trace.filterMap EngineEvent.released)
    (adds : events.filterMap EngineEvent.released = handles.map (n, ·)) :
    ((trace ++ events).filterMap EngineEvent.released).Nodup := by
  rw [List.filterMap_append, adds, List.nodup_append]
  refine ⟨before, once.map (Prod.mk_right_injective n), ?_⟩
  rintro x earlier _ later rfl
  obtain ⟨handle, there, rfl⟩ := List.mem_map.1 later
  exact new handle there earlier

theorem not_mem_released {trace : List EngineEvent} {m : SessionId} {handle : EngineHandle}
    (own : ∀ e ∈ trace, e.session ≠ m) : (m, handle) ∉ trace.filterMap EngineEvent.released := by
  intro there
  obtain ⟨e, mem, same⟩ := List.mem_filterMap.1 there
  obtain ⟨_, _, pair⟩ := Option.map_eq_some_iff.1 same
  exact own e mem (congrArg Prod.fst pair)

namespace Traced.Accounted

theorem nothing (outer : ε) : (⟨outer, [], 0, []⟩ : Traced ε).Accounted where
  once := List.nodup_nil
  known _ := nofun
  unbegun _ _ := rfl
  whole _ := .inl rfl

theorem quit (accounted : h.outer.Accounted) {told : List String} (visits : Visits n h h' events {})
    (closes : Closes n (h.outer.parts n).closing events told) : h'.outer.Accounted := by
  have own := closes.own
  have kept : ∀ m, m ≠ n → ∀ handle, (m, handle) ∉ events.filterMap EngineEvent.released :=
    fun m other handle => not_mem_released fun e there => ne_of_eq_of_ne (own e there) other.symm
  constructor
  case once =>
    rw [visits.trace]
    rcases accounted.whole n with empty | ⟨whole, unreleased⟩
    · rw [empty] at closes
      exact nodup_released accounted.once List.nodup_nil nofun closes.released
    · rw [whole] at closes
      exact nodup_released accounted.once (by decide) (fun handle _ => unreleased handle) closes.released
  case known =>
    rw [visits.trace, visits.begun]
    intro e there
    rcases List.mem_append.1 there with earlier | new
    · exact accounted.known e earlier
    · rw [own e new]
      -- A session that was never begun has nothing to close, so the calls of it cannot be new.
      by_contra late
      have none : events.map (fun e => (e.session, e.call)) = [] := by
        rw [closes.calls, accounted.unbegun n (Nat.lt_of_not_le late)]
        rfl
      rw [List.map_eq_nil_iff.1 none] at new
      cases new
  case unbegun =>
    intro m late
    by_cases same : m = n
    · rw [same]; exact visits.own
    · rw [visits.others m same]
      exact accounted.unbegun m (visits.begun ▸ late)
  case whole =>
    intro m
    by_cases same : m = n
    · rw [same]; exact .inl visits.own
    · rw [visits.others m same, visits.trace, List.filterMap_append]
      exact (accounted.whole m).imp_right fun ⟨whole, unreleased⟩ =>
        ⟨whole, fun handle there => (List.mem_append.1 there).elim (unreleased handle) (kept m same handle)⟩

theorem create (accounted : h.outer.Accounted) {c : SessionConfig} {r : Except Fault SessionId}
    (creation : Creation (h.outer.begun + 1) c r events) (begun : h'.outer.begun = h.outer.begun + 1)
    (trace : h'.outer.trace = h.outer.trace ++ events)
    (new : h'.outer.parts (h.outer.begun + 1) = if r.isOk then .whole else {})
    (others : ∀ m, m ≠ h.outer.begun + 1 → h'.outer.parts m = h.outer.parts m) : h'.outer.Accounted := by
  obtain ⟨handles, released, once, returned⟩ := creation.releases
  have fresh : ∀ handle, (h.outer.begun + 1, handle) ∉ h.outer.trace.filterMap EngineEvent.released :=
    fun handle => not_mem_released fun e there => Nat.ne_of_lt (Nat.lt_succ_of_le (accounted.known e there))
  constructor
  case once =>
    rw [trace]
    exact nodup_released accounted.once once (fun handle _ => fresh handle) released
  case known =>
    rw [trace, begun]
    intro e there
    rcases List.mem_append.1 there with earlier | added
    · exact Nat.le_succ_of_le (accounted.known e earlier)
    · exact Nat.le_of_eq (creation.own e added)
  case unbegun =>
    intro m late
    rw [begun] at late
    rw [others m (Nat.ne_of_gt late)]
    exact accounted.unbegun m (Nat.lt_of_succ_lt late)
  case whole =>
    intro m
    by_cases same : m = h.outer.begun + 1
    · rw [same, new, trace, List.filterMap_append, released]
      split
      · rename_i ok
        rw [returned ok, List.map_nil, List.append_nil]
        exact .inr ⟨rfl, fresh⟩
      · exact .inl rfl
    · rw [others m same, trace, List.filterMap_append]
      refine (accounted.whole m).imp_right fun ⟨whole, unreleased⟩ => ⟨whole, fun handle there => ?_⟩
      exact (List.mem_append.1 there).elim (unreleased handle)
        (not_mem_released fun e added => ne_of_eq_of_ne (creation.own e added) (Ne.symm same))

end Traced.Accounted

end

/-! ## Any calls on a factory -/

section

variable {ε : Type} {engine : Engine ε} {n : SessionId} (ordinary : ∀ call, (engine call).Ordinarily)
include ordinary

theorem accounted_step {h : Host (Traced ε)} (accounted : h.outer.Accounted) (call : FactoryCall) :
    (engine.step h call).outer.Accounted := by
  cases call with
  | create config =>
    obtain ⟨r, h', events, run, creation, begun, trace, new, others⟩ := Engine.exists_create ordinary config h
    rw [Engine.step, run]
    exact accounted.create creation begun trace new others
  | quit n =>
    obtain ⟨r, h', events, told, run, visits, -, closes⟩ := Engine.exists_quit ordinary n h
    rw [Engine.step, run]
    exact accounted.quit visits closes

theorem accounted_after (calls : List FactoryCall) :
    ∀ {h : Host (Traced ε)}, h.outer.Accounted → (engine.after calls h).outer.Accounted := by
  induction calls with
  | nil => exact id
  | cons call rest ih => exact fun accounted => ih (accounted_step ordinary accounted call)

/-- A session that was begun keeps what it has until it is quit, and gets nothing back. -/
theorem parts_after (calls : List FactoryCall) : ∀ {h : Host (Traced ε)}, n ≤ h.outer.begun →
    (engine.after calls h).outer.parts n = if .quit n ∈ calls then {} else h.outer.parts n := by
  induction calls with
  | nil => intro h begun; rfl
  | cons call rest ih =>
    intro h begun
    show (engine.after rest (engine.step h call)).outer.parts n = _
    cases call with
    | create config =>
      obtain ⟨r, h', events, run, -, more, -, -, others⟩ := Engine.exists_create ordinary config h
      have step : engine.step h (.create config) = h' := congrArg Prod.snd run
      rw [step, ih (more ▸ Nat.le_succ_of_le begun), others n (Nat.ne_of_lt (Nat.lt_succ_of_le begun))]
      simp
    | quit m =>
      obtain ⟨r, h', events, told, run, visits, -, -⟩ := Engine.exists_quit ordinary m h
      have step : engine.step h (.quit m) = h' := congrArg Prod.snd run
      rw [step, ih (visits.begun ▸ begun)]
      by_cases same : n = m
      · subst same
        simp [visits.own]
      · simp [visits.others n same, same]

end

def Host.traced {ε : Type} (h : Host ε) : Host (Traced ε) := { h with outer := ⟨h.outer, [], 0, []⟩ }

/--
Whatever fails, short of an interruption by the user: a session that cannot be created ends in the fault that opening
it met, with a release of all it had obtained. The first time a session is quit, the release of all four handles is
attempted, and the call fails exactly if one of these does; after that it is quit without any call. No handle is
released twice.
-/
theorem sessions_release_handles {ε : Type} {engine : Engine ε} (ordinary : ∀ call, (engine call).Ordinarily)
    (start : Host ε) (calls : List FactoryCall) :
    let h := engine.after calls start.traced
    (h.outer.trace.filterMap EngineEvent.released).Nodup ∧
      (∀ config, ∃ r h' events, (engine.create config).run h = (r, h') ∧
        h'.outer.trace = h.outer.trace ++ events ∧ Creation (h.outer.begun + 1) config r events) ∧
      ∀ before config between n, calls = before ++ .create config :: between →
        ((engine.create config).run (engine.after before start.traced)).1 = .ok n →
          ∃ r h' events, (engine.quit n).run h = (r, h') ∧ h'.outer.trace = h.outer.trace ++ events ∧
            (.quit n ∉ between →
              events.map (fun e => (e.session, e.call)) =
                [(n, .closePage), (n, .closeContext), (n, .closeBrowser), (n, .stop)] ∧
              ((∃ fault, r = .error fault) ↔ ∃ e ∈ events, ∃ fault, e.fault = some fault)) ∧
            (.quit n ∈ between → events = [] ∧ r = .ok ()) := by
  intro h
  have accounted : h.outer.Accounted := accounted_after ordinary calls (.nothing start.outer)
  refine ⟨accounted.once, fun config => ?_, fun before config between n split returned => ?_⟩
  · obtain ⟨r, h', events, run, creation, -, trace, -, -⟩ := Engine.exists_create ordinary config h
    exact ⟨r, h', events, run, trace, creation⟩
  · obtain ⟨r₀, g, _, created, creation, begun, -, new, -⟩ :=
      Engine.exists_create ordinary config (engine.after before start.traced)
    rw [created] at returned
    obtain rfl : r₀ = .ok n := returned
    obtain rfl : n = (engine.after before start.traced).outer.begun + 1 := by cases creation; rfl
    -- from when the session was created, its parts are still there until it is quit
    have reached : h = engine.after between g := by
      have step : engine.step (engine.after before start.traced) (.create config) = g := congrArg Prod.snd created
      show engine.after calls start.traced = _
      rw [split, Engine.after, List.foldl_append, List.foldl_cons]
      exact congrArg (engine.after between) step
    have has := parts_after ordinary between (Nat.le_of_eq begun.symm)
    rw [← reached] at has
    obtain ⟨r, h', events, told, run, visits, ends, closes⟩ := Engine.exists_quit ordinary _ h
    refine ⟨r, h', events, run, visits.trace, fun first => ?_, fun again => ?_⟩
    · rw [if_neg first, new] at has
      rw [has] at closes
      exact ⟨closes.calls, closes.failed_iff ends⟩
    · rw [if_pos again] at has
      rw [has] at closes
      have none := List.map_eq_nil_iff.1 closes.calls
      refine ⟨none, ends.2 (closes.told.2 ?_)⟩
      rw [none]
      exact nofun

/-- No page can be opened the first time, and no context can be closed. -/
def Engine.brittle : Engine Nat
  | .newPage => Act.make fun h =>
    (if h.outer = 0 then .error (.plain .runtime "no page") else .ok (), { h with outer := h.outer + 1 })
  | .closeContext => throw (.plain .runtime "lost")
  | .title | .url => return ""
  | .isVisible _ | .isEnabled _ | .isChecked _ => return true
  | .start | .launch .. | .newContext _ | .setTimeout _ | .setNavigationTimeout _ | .goto _ | .click _ | .fill ..
  | .waitFor .. | .screenshot _ | .closePage | .closeBrowser | .stop => return ()

theorem sessions_release_handles_brittle :
    let h := Engine.brittle.after [.create {}, .create {}] (Host.start ⟨⟨2024, 5, 1⟩, ⟨0, 0, 0, 0⟩, none⟩ [] 0).traced
    (h.outer.trace.filterMap EngineEvent.released).Nodup ∧
      h.outer.trace.filterMap EngineEvent.released = [(1, .context), (1, .browser), (1, .engine)] ∧
      ∃ fault h' events, (Engine.brittle.quit 2).run h = (.error fault, h') ∧
        h'.outer.trace = h.outer.trace ++ events ∧
        events.map (fun e => (e.session, e.call)) =
          [(2, .closePage), (2, .closeContext), (2, .closeBrowser), (2, .stop)] := by
  intro h
  have ordinary : ∀ call, (Engine.brittle call).Ordinarily := by
    intro call g fault fails
    cases call with
    | newPage =>
      have met : (if g.outer = 0 then .error (.plain .runtime "no page") else .ok () : Except Fault Unit) =
          .error fault := fails
      split at met
      · cases met; rfl
      · cases met
    | closeContext => cases fails; rfl
    | _ => cases fails
  obtain ⟨once, -, quits⟩ := sessions_release_handles ordinary
    (Host.start ⟨⟨2024, 5, 1⟩, ⟨0, 0, 0, 0⟩, none⟩ [] 0) [.create {}, .create {}]
  obtain ⟨r, h', events, run, trace, first, -⟩ := quits [.create {}] {} [] 2 rfl rfl
  have broken : ∃ fault, r = .error fault := ⟨_, (congrArg Prod.fst run).symm.trans rfl⟩
  obtain ⟨fault, rfl⟩ := broken
  exact ⟨once, rfl, fault, h', events, run, trace, (first nofun).1⟩

end KeywordSuite
