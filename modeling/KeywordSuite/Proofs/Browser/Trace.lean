import KeywordSuite.Browser.Automation
import KeywordSuite.Proofs.Actions

/-!
# What a session asks of its engine

A session obtains the handles of an engine, a browser, a context and a page one after the other. What it asks of its
engine is traced here, with the fault each call met. A session that cannot be opened releases what it has obtained so
far, the last of it first; one that is quit releases all it has, whatever fails on the way.
-/

namespace KeywordSuite

inductive EngineHandle
  | engine
  | browser
  | context
  | page
  deriving DecidableEq

namespace EngineCall

def obtains : EngineCall → Option EngineHandle
  | .start => some .engine
  | .launch .. => some .browser
  | .newContext _ => some .context
  | .newPage => some .page
  | _ => none

def releases : EngineCall → Option EngineHandle
  | .stop => some .engine
  | .closeBrowser => some .browser
  | .closeContext => some .context
  | .closePage => some .page
  | _ => none

end EngineCall

structure EngineEvent where
  session : SessionId
  call : EngineCall
  fault : Option Fault

namespace EngineEvent

def obtained (e : EngineEvent) : Option (SessionId × EngineHandle) :=
  if e.fault.isNone then e.call.obtains.map (e.session, ·) else none

/-- The handle whose release is attempted, whether or not that works. -/
def released (e : EngineEvent) : Option (SessionId × EngineHandle) := e.call.releases.map (e.session, ·)

end EngineEvent

/-- A state beside the sessions of a factory, and the trace of what they asked of their engines. -/
structure Traced (ε : Type) where
  outer : ε
  fleet : SessionFleet
  begun : Nat
  trace : List EngineEvent

namespace Engine

variable {ε : Type} (engine : Engine ε)

/-- The same engine for one session, with a trace of its calls. -/
def traced (session : SessionId) : Engine (Traced ε) := fun call =>
  Act.make fun h =>
    let (r, g) := (engine call).run { h with outer := h.outer.outer }
    (r, { g with outer :=
      { h.outer with outer := g.outer, trace := h.outer.trace ++ [⟨session, call, faultOf r⟩] } })

end Engine

/-! ## Calls -/

section

variable {ε : Type} {engine : Engine ε} {n : SessionId}

/-- What calls of a session have led to adds events to the trace, and nothing to the sessions. -/
structure Adds (h h' : Host (Traced ε)) (events : List EngineEvent) : Prop where
  fleet : h'.outer.fleet = h.outer.fleet
  begun : h'.outer.begun = h.outer.begun
  trace : h'.outer.trace = h.outer.trace ++ events

theorem Adds.nothing {h h' : Host (Traced ε)} (same : h'.outer = h.outer) : Adds h h' [] :=
  ⟨congrArg _ same, congrArg _ same, by rw [same, List.append_nil]⟩

theorem Adds.trans {h h' h'' : Host (Traced ε)} {events more : List EngineEvent} (first : Adds h h' events)
    (second : Adds h' h'' more) : Adds h h'' (events ++ more) :=
  ⟨second.fleet.trans first.fleet, second.begun.trans first.begun,
    by rw [second.trace, first.trace, List.append_assoc]⟩

/-- Calls that close something, with an event for each of them, and what there is to tell of those that failed. -/
structure Closes (n : SessionId) (calls : List EngineCall) (events : List EngineEvent) (told : List String) : Prop where
  calls : events.map (fun e => (e.session, e.call)) = calls.map (n, ·)
  told : told = [] ↔ ∀ e ∈ events, e.fault = none

theorem Closes.append {calls calls' : List EngineCall} {events events' : List EngineEvent} {told told' : List String}
    (first : Closes n calls events told) (second : Closes n calls' events' told') :
    Closes n (calls ++ calls') (events ++ events') (told ++ told') where
  calls := by rw [List.map_append, List.map_append, first.calls, second.calls]
  told := by
    rw [List.append_eq_nil_iff, first.told, second.told, List.forall_mem_append]

theorem Closes.released {calls : List EngineCall} {events : List EngineEvent} {told : List String}
    (closes : Closes n calls events told) :
    events.filterMap EngineEvent.released = (calls.filterMap EngineCall.releases).map (n, ·) := by
  have split : EngineEvent.released =
      (fun x : SessionId × EngineCall => x.2.releases.map (x.1, ·)) ∘ fun e => (e.session, e.call) := rfl
  rw [split, ← List.filterMap_map, closes.calls, List.filterMap_map, List.map_filterMap]
  rfl

theorem Closes.own {calls : List EngineCall} {events : List EngineEvent} {told : List String}
    (closes : Closes n calls events told) : ∀ e ∈ events, e.session = n := by
  intro e there
  have called : (e.session, e.call) ∈ calls.map (n, ·) := by
    rw [← closes.calls]
    exact List.mem_map_of_mem there
  obtain ⟨_, _, same⟩ := List.mem_map.1 called
  exact (congrArg Prod.fst same).symm

theorem Closes.failed_iff {calls : List EngineCall} {events : List EngineEvent} {told : List String}
    (closes : Closes n calls events told) {r : Except Fault Unit} (ends : r = .ok () ↔ told = []) :
    (∃ fault, r = .error fault) ↔ ∃ e ∈ events, ∃ fault, e.fault = some fault := by
  have works : r = .ok () ↔ ∀ e ∈ events, e.fault = none := ends.trans closes.told
  cases r with
  | ok _ =>
    refine iff_of_false nofun ?_
    rintro ⟨e, there, fault, met⟩
    rw [works.1 rfl e there] at met
    cases met
  | error fault =>
    refine iff_of_true ⟨fault, rfl⟩ (Classical.byContradiction fun all => ?_)
    have fine : ∀ e ∈ events, e.fault = none := by
      intro e there
      cases met : e.fault with
      | none => rfl
      | some other => exact absurd ⟨e, there, other, met⟩ all
    cases works.2 fine

/-- Calls that open something are made up to the first that fails. -/
inductive Reaches (n : SessionId) (calls : List EngineCall) : Except Fault Unit → List EngineCall → List EngineEvent → Prop
  | all : Reaches n calls (.ok ()) calls (calls.map (⟨n, ·, none⟩))
  | upTo {before : List EngineCall} {failing : EngineCall} {rest : List EngineCall} {fault : Fault}
      (calm : fault.isInterrupt = false) (split : calls = before ++ failing :: rest) :
      Reaches n calls (.error fault) before (before.map (⟨n, ·, none⟩) ++ [⟨n, failing, some fault⟩])

end

def SessionParts.closing (parts : SessionParts) : List EngineCall :=
  (if parts.page then [.closePage] else []) ++ (if parts.context then [.closeContext] else [])
    ++ (if parts.browser then [.closeBrowser] else []) ++ (if parts.engine then [.stop] else [])

def SessionParts.whole : SessionParts := ⟨true, true, true, true⟩

def SessionParts.obtain (parts : SessionParts) (call : EngineCall) : SessionParts :=
  match call.obtains with
  | some .engine => { parts with engine := true }
  | some .browser => { parts with browser := true }
  | some .context => { parts with context := true }
  | some .page => { parts with page := true }
  | none => parts

def SessionConfig.opening (c : SessionConfig) : List EngineCall := [
  .start,
  .launch (BrowserFlavor.resolve c.browser).engine c.launchOptions,
  .newContext c.contextOptions,
  .setTimeout (c.implicitWaitSeconds * 1000),
  .setNavigationTimeout (c.pageLoadTimeoutSeconds * 1000),
  .newPage]

/-- Closing what the first calls of opening have obtained, the last of it comes first. -/
theorem closing_obtained {c : SessionConfig} {before : List EngineCall} {failing : EngineCall}
    {rest : List EngineCall} (split : c.opening = before ++ failing :: rest) :
    (before.foldl SessionParts.obtain {}).closing.filterMap EngineCall.releases =
      (before.filterMap EngineCall.obtains).reverse := by
  have first : before = c.opening.take before.length := by rw [split, List.take_left]
  have short : before.length < 6 := by
    have six : c.opening.length = 6 := rfl
    rw [split, List.length_append, List.length_cons] at six
    omega
  rw [first]
  match before.length, short with
  | 0, _ | 1, _ | 2, _ | 3, _ | 4, _ | 5, _ => rfl

/-- How creating a session ends, and what it asks of its engine. All the calls that open it work, or the first that
fails says how it ends, and what it has obtained until then is released, the last of it first. -/
inductive Creation (n : SessionId) (c : SessionConfig) : Except Fault SessionId → List EngineEvent → Prop
  | opened : Creation n c (.ok n) (c.opening.map (⟨n, ·, none⟩))
  | failed {before : List EngineCall} {failing : EngineCall} {rest : List EngineCall} {fault : Fault}
      {opened closed : List EngineEvent} (reached : c.opening = before ++ failing :: rest)
      (worked : opened = before.map (⟨n, ·, none⟩))
      (own : ∀ e ∈ closed, e.session = n)
      (released : closed.filterMap EngineEvent.released = (opened.filterMap EngineEvent.obtained).reverse) :
      Creation n c (.error fault) (opened ++ ⟨n, failing, some fault⟩ :: closed)

namespace Piloted

variable {ε : Type} {engine : Engine ε} {n : SessionId}

theorem run_change (f : SessionParts → SessionParts) (p : Piloted (Traced ε)) :
    (change f).run p = (.ok (), { p with parts := f p.parts }) := rfl

theorem exists_note (level : LogLevel) (message : String) (p : Piloted (Traced ε)) :
    ∃ h, (note level message).run p = (.ok (), ⟨p.parts, h⟩) ∧ Adds p.host h [] :=
  ⟨_, rfl, .nothing rfl⟩

theorem exists_noteAll : ∀ (lines : List (LogLevel × String)) (p : Piloted (Traced ε)),
    ∃ h, (noteAll lines).run p = (.ok (), ⟨p.parts, h⟩) ∧ Adds p.host h []
  | [], p => ⟨p.host, rfl, .nothing rfl⟩
  | (level, message) :: rest, p => by
    obtain ⟨h, noted, added⟩ := exists_note level message p
    obtain ⟨h', others, more⟩ := exists_noteAll rest ⟨p.parts, h⟩
    refine ⟨h', ?_, added.trans more⟩
    rw [noteAll, Act.run_bind_of_ok noted]
    exact others

section

variable (ordinary : ∀ call, (engine call).Ordinarily)
include ordinary

theorem exists_call (c : EngineCall) (p : Piloted (Traced ε)) :
    ∃ r h, (call (engine.traced n) c).run p = (r, ⟨p.parts, h⟩) ∧ Ordinary r ∧
      Adds p.host h [⟨n, c, faultOf r⟩] :=
  ⟨_, _, rfl, ordinary c _, rfl, rfl, rfl⟩

/-! ## Quitting -/

theorem exists_closePart (isOpen : Bool) (label : String) (c : EngineCall) (p : Piloted (Traced ε)) :
    ∃ told h events, (closePart (engine.traced n) isOpen label c).run p = (.ok told, ⟨p.parts, h⟩) ∧
      Adds p.host h events ∧ Closes n (if isOpen then [c] else []) events told := by
  unfold closePart
  cases isOpen with
  | false => exact ⟨[], p.host, [], rfl, .nothing rfl, rfl, by simp⟩
  | true =>
    obtain ⟨r, h, called, calm, added⟩ := exists_call ordinary c p
    have settles : (call (engine.traced n) c).attempt.run p = (.ok r, ⟨p.parts, h⟩) := by
      rw [Act.run_attempt, called, settled_of_ordinary calm]
    rw [if_pos rfl, Act.run_bind_of_ok settles]
    cases r with
    | ok _ => exact ⟨[], h, _, rfl, added, rfl, by simp [faultOf]⟩
    | error fault => exact ⟨_, h, _, rfl, added, rfl, by simp [faultOf]⟩

/-- Quitting closes whatever is open, and leaves nothing open; it fails exactly if one of the calls did. -/
theorem exists_quit (p : Piloted (Traced ε)) :
    ∃ r h events told, (quit (engine.traced n)).run p = (r, ⟨{}, h⟩) ∧ Ordinary r ∧ (r = .ok () ↔ told = []) ∧
      Adds p.host h events ∧ Closes n p.parts.closing events told := by
  obtain ⟨page, h₁, events₁, run₁, added₁, closes₁⟩ :=
    exists_closePart (n := n) ordinary p.parts.page "page" .closePage p
  obtain ⟨context, h₂, events₂, run₂, added₂, closes₂⟩ :=
    exists_closePart (n := n) ordinary p.parts.context "context" .closeContext ⟨p.parts, h₁⟩
  obtain ⟨browser, h₃, events₃, run₃, added₃, closes₃⟩ :=
    exists_closePart (n := n) ordinary p.parts.browser "browser" .closeBrowser ⟨p.parts, h₂⟩
  obtain ⟨stop, h₄, events₄, run₄, added₄, closes₄⟩ :=
    exists_closePart (n := n) ordinary p.parts.engine "playwright" .stop ⟨{ engine := p.parts.engine }, h₃⟩
  have added := ((added₁.trans added₂).trans added₃).trans added₄
  have closes := ((closes₁.append closes₂).append closes₃).append closes₄
  unfold quit
  rw [Act.run_bind, Act.run_get]
  dsimp only
  rw [Act.run_bind_of_ok run₁, Act.run_bind_of_ok run₂, Act.run_bind_of_ok run₃,
    Act.run_bind_of_ok (run_change _ _), Act.run_bind_of_ok run₄, Act.run_bind_of_ok (run_change _ _)]
  cases told : page ++ context ++ browser ++ stop with
  | nil =>
    rw [told] at closes
    exact ⟨.ok (), _, _, [], rfl, ordinary_ok (), by simp, ⟨added.fleet, added.begun, added.trace⟩, closes⟩
  | cons first rest =>
    rw [told] at closes
    exact ⟨_, _, _, first :: rest, rfl, faulty_error rfl, by simp, added, closes⟩

end

/-! ## Opening -/

variable (n) in
/-- Whatever the session has, an action makes calls that open more, up to the first that fails. -/
def Opens (calls : List EngineCall) (act : Act (Piloted (Traced ε)) Unit) : Prop :=
  ∀ p, ∃ r done events h, Reaches n calls r done events ∧
    act.run p = (r, ⟨done.foldl SessionParts.obtain p.parts, h⟩) ∧ Adds p.host h events

theorem opens_nothing {act : Act (Piloted (Traced ε)) Unit}
    (notes : ∀ p, ∃ h, act.run p = (.ok (), ⟨p.parts, h⟩) ∧ Adds p.host h []) : Opens n [] act := by
  intro p
  obtain ⟨h, run, added⟩ := notes p
  exact ⟨_, _, _, h, .all, run, added⟩

theorem Opens.bind {calls calls' : List EngineCall} {first : Act (Piloted (Traced ε)) Unit}
    {rest : Act (Piloted (Traced ε)) Unit} (opens : Opens n calls first) (others : Opens n calls' rest) :
    Opens n (calls ++ calls') (first >>= fun _ => rest) := by
  intro p
  obtain ⟨r, done, events, h, reaches, run, added⟩ := opens p
  cases reaches with
  | all =>
    obtain ⟨r', done', events', h', reaches', run', added'⟩ := others ⟨calls.foldl SessionParts.obtain p.parts, h⟩
    refine ⟨r', calls ++ done', calls.map (⟨n, ·, none⟩) ++ events', h', ?_, ?_, added.trans added'⟩
    · cases reaches' with
      | all => rw [← List.map_append]; exact .all
      | upTo calm split =>
        rw [← List.append_assoc, ← List.map_append]
        exact .upTo calm (by rw [split, List.append_assoc])
    · rw [Act.run_bind_of_ok run, run', List.foldl_append]
  | upTo calm split =>
    refine ⟨_, done, _, h, .upTo calm (by rw [split, List.append_assoc]; rfl), ?_, added⟩
    rw [Act.run_bind, run]

section

variable (ordinary : ∀ call, (engine call).Ordinarily)
include ordinary

theorem opens_then {c : EngineCall} {change : Act (Piloted (Traced ε)) Unit}
    (changes : ∀ p, change.run p = (.ok (), { p with parts := p.parts.obtain c })) :
    Opens n [c] (do let _ ← call (engine.traced n) c; change) := by
  intro p
  obtain ⟨r, h, called, calm, added⟩ := exists_call (n := n) ordinary c p
  rw [Act.run_bind, called]
  cases r with
  | ok _ => exact ⟨.ok (), [c], _, h, .all, changes _, added⟩
  | error fault =>
    have split : [c] = [] ++ c :: [] := rfl
    exact ⟨.error fault, [], _, h, .upTo (calm fault rfl) split, rfl, added⟩

theorem Opens.obtaining {c : EngineCall} {calls : List EngineCall} {change rest : Act (Piloted (Traced ε)) Unit}
    (others : Opens n calls rest) (changes : ∀ p, change.run p = (.ok (), { p with parts := p.parts.obtain c })) :
    Opens n (c :: calls) (call (engine.traced n) c >>= fun _ => change >>= fun _ => rest) := by
  have both := (opens_then ordinary changes).bind others
  rwa [bind_assoc] at both

theorem Opens.calling {c : EngineCall} {calls : List EngineCall} {rest : Act (Piloted (Traced ε)) Unit}
    (others : Opens n calls rest) (plain : c.obtains = none) :
    Opens n (c :: calls) (call (engine.traced n) c >>= fun _ => rest) := by
  have nothing : ∀ p : Piloted (Traced ε), (pure () : Act (Piloted (Traced ε)) Unit).run p =
      (.ok (), { p with parts := p.parts.obtain c }) := by
    intro p
    rw [SessionParts.obtain, plain]
    rfl
  have both := Opens.obtaining ordinary others nothing
  simpa only [pure_bind] using both

theorem opens_start (c : SessionConfig) : Opens n c.opening (start (engine.traced n) c) := by
  refine (opens_nothing (exists_noteAll _)).bind (Opens.obtaining ordinary ?_ (run_change _))
  refine (opens_nothing (exists_note _ _)).bind (Opens.obtaining ordinary ?_ (run_change _))
  refine Opens.obtaining ordinary ?_ (run_change _)
  refine Opens.calling ordinary (Opens.calling ordinary ?_ rfl) rfl
  exact opens_then ordinary (run_change _)

/-! ## Creating -/

/-- A session that cannot be opened has nothing left open. -/
theorem exists_create (c : SessionConfig) (h : Host (Traced ε)) :
    ∃ r parts h' events, (create (engine.traced n) c).run ⟨{}, h⟩ = (r, ⟨parts, h'⟩) ∧ Adds h h' events ∧
      Creation n c (r.map fun _ => n) events ∧ parts = if r.isOk then .whole else {} := by
  obtain ⟨r, done, events, g, reaches, opened, added⟩ := opens_start (n := n) ordinary c ⟨{}, h⟩
  unfold create
  rw [Act.run_bind, Act.run_attempt, opened]
  cases reaches with
  | all => exact ⟨.ok (), _, g, _, rfl, added, .opened, rfl⟩
  | @upTo _ failing rest fault calm split =>
    -- Quitting what has been obtained may fail in turn; its fault is logged, and the first one raised.
    obtain ⟨r, g', closed, told, left, ends, -, more, closes⟩ :=
      exists_quit (n := n) ordinary ⟨done.foldl SessionParts.obtain {}, g⟩
    have settles : (quit (engine.traced n)).attempt.run ⟨done.foldl SessionParts.obtain {}, g⟩ =
        (.ok r, ⟨{}, g'⟩) := by
      rw [Act.run_attempt, left, settled_of_ordinary ends]
    have creation : Creation n c (.error fault)
        ((done.map (⟨n, ·, none⟩) ++ [⟨n, failing, some fault⟩]) ++ closed) := by
      rw [List.append_assoc, List.singleton_append]
      refine .failed split rfl closes.own ?_
      rw [closes.released, closing_obtained split, List.filterMap_map, List.map_reverse, List.map_filterMap]
      rfl
    simp only [settled, calm, Bool.false_eq_true, if_false]
    rw [Act.run_bind_of_ok settles]
    cases r with
    | ok _ => exact ⟨.error fault, {}, g', _, rfl, added.trans more, creation, rfl⟩
    | error other =>
      have noted := added.trans more
      exact ⟨.error fault, {}, _, _, rfl, ⟨noted.fleet, noted.begun, noted.trace⟩, creation, rfl⟩

end

end Piloted

end KeywordSuite
