import KeywordSuite.Proofs.Actions
import KeywordSuite.Proofs.Entries
import KeywordSuite.Report.Screenshots

/-!
# Operations of the session registry

A table is looked at through the live session of each unit. Each operation of the registry is
described once by what it answers and what it does to that view; the later modules use nothing else.
-/

namespace KeywordSuite

namespace SessionTable

variable (t : SessionTable) (u v : UnitId)

theorem lookup_slot (y : SessionSlot) (rest : List (UnitId × SessionSlot)) :
    List.lookup v ((u, y) :: rest) = if v = u then some y else List.lookup v rest := by
  rw [List.lookup_cons]
  by_cases h : v = u
  · simp [h]
  · have : (v == u) = false := beq_false_of_ne h
    simp [h, this]

theorem lookup_setSlot (x : SessionSlot) : ∀ slots : List (UnitId × SessionSlot),
    List.lookup v (setSlot slots u x) = if v = u then some x else List.lookup v slots
  | [] => lookup_slot u v x []
  | (k, y) :: rest => by
    unfold setSlot
    by_cases hk : k = u
    · subst hk
      rw [if_pos rfl, lookup_slot, lookup_slot]
      by_cases h : v = k <;> simp [h]
    · rw [if_neg hk, lookup_slot, lookup_slot, lookup_setSlot x rest]
      by_cases h : v = k
      · subst h; simp [hk]
      · simp [h]

theorem setSlot_setSlot (x y : SessionSlot) : ∀ slots : List (UnitId × SessionSlot),
    setSlot (setSlot slots u x) u y = setSlot slots u y
  | [] => by simp [setSlot]
  | (k, z) :: rest => by
    by_cases hk : k = u
    · simp [setSlot, hk]
    · simp [setSlot, hk, setSlot_setSlot x y rest]

/-! ## The slot of a unit -/

theorem slot?_add : (t.add u).slot? v = if v = u then some { session := some t.next } else t.slot? v :=
  lookup_setSlot u v _ t.slots

theorem slot?_erase : (t.erase u).slot? v = if v = u then none else t.slot? v := lookup_filter_ne u v t.slots

theorem slot?_adjust (f : SessionSlot → SessionSlot) :
    (t.adjust u f).slot? v = if v = u then (t.slot? u).map f else t.slot? v := by
  unfold adjust
  cases h : t.slot? u with
  | some slot => exact lookup_setSlot u v (f slot) t.slots
  | none =>
    by_cases hv : v = u
    · rw [if_pos hv, hv]
      exact h
    · rw [if_neg hv]

theorem created_adjust (f : SessionSlot → SessionSlot) : (t.adjust u f).created = t.created := by
  unfold adjust; split <;> rfl

/-! ## The live session of a unit -/

theorem live?_add : (t.add u).live? v = if v = u then some t.next else t.live? v := by
  unfold live?
  rw [slot?_add]
  split <;> rfl

theorem live?_erase : (t.erase u).live? v = if v = u then none else t.live? v := by
  unfold live?
  rw [slot?_erase]
  split <;> rfl

theorem hasSlot_erase : (t.erase u).hasSlot u = false := by
  unfold hasSlot
  rw [slot?_erase, if_pos rfl]
  rfl

theorem live?_eq_none_of_hasSlot (h : t.hasSlot u = false) : t.live? u = none := by
  unfold hasSlot at h
  unfold live?
  rw [Option.isSome_eq_false_iff, Option.isNone_iff_eq_none] at h
  rw [h]
  rfl

/-- A slot that is adjusted so that no session is live in it. -/
theorem live?_adjust {f : SessionSlot → SessionSlot} (idle : ∀ slot, (f slot).live? = none) :
    (t.adjust u f).live? v = if v = u then none else t.live? v := by
  unfold live?
  rw [slot?_adjust]
  split
  · cases t.slot? u with
    | some slot => exact idle slot
    | none => rfl
  · rfl

theorem live?_tearDown : (t.tearDown u).live? v = if v = u then none else t.live? v :=
  t.live?_adjust u v fun _ => rfl

theorem live?_discard : (t.discard u).live? v = if v = u then none else t.live? v :=
  t.live?_adjust u v fun _ => ite_self none

theorem live?_discard_idle (h : t.live? u = none) : (t.discard u).live? v = t.live? v := by
  rw [live?_discard]
  split
  · rename_i hv; rw [hv, h]
  · rfl

theorem created_tearDown : (t.tearDown u).created = t.created := t.created_adjust u _

theorem live?_reset : ((t.tearDown u).erase u).live? v = if v = u then none else t.live? v := by
  rw [live?_erase, live?_tearDown]
  split <;> rfl

theorem created_discard : (t.discard u).created = t.created := t.created_adjust u _

theorem add_discard : (t.discard u).add u = t.add u := by
  unfold add next
  rw [created_discard]
  congr 1
  unfold discard adjust
  cases t.slot? u with
  | some slot => exact setSlot_setSlot u _ _ t.slots
  | none => rfl

/-! ## Resetting many units -/

def resetAll (units : List UnitId) : SessionTable := units.foldl (fun t u => (t.tearDown u).erase u) t

variable {t} in
theorem live?_resetAll {units : List UnitId} : (t.resetAll units).live? v = if v ∈ units then none else t.live? v := by
  induction units generalizing t with
  | nil => rfl
  | cons u rest ih =>
    refine ih.trans ?_
    rw [live?_reset]
    by_cases here : v = u <;> simp [here]

variable {t} in
theorem created_resetAll {units : List UnitId} : (t.resetAll units).created = t.created := by
  induction units generalizing t with
  | nil => rfl
  | cons u rest ih => exact ih.trans (t.created_tearDown u)

/-- After all its units are reset, no session is left. -/
theorem live?_resetAll_units : (t.resetAll t.units).live? v = none := by
  rw [live?_resetAll]
  split
  · rfl
  · rename_i away
    unfold live? slot?
    rw [List.lookup_eq_none_iff.2 fun q mem => ?_]
    · rfl
    · rw [bne_iff_ne]
      rintro rfl
      exact away (List.mem_map_of_mem mem)

end SessionTable

namespace SessionBackend

variable {ω : Type} (b : SessionBackend ω) (unit : UnitId) (w : World ω)

/-! ## Opening -/

theorem openSession_live (config : Option SessionConfig) {n : SessionId}
    (h : w.sessions.live? unit = some n) :
    ∃ message, (b.openSession config unit).run w =
      (.ok n, { w with outer := b.log .warning message w.outer }) := by
  simp only [openSession, Act.run_bind, run_liveSession, h, run_note, Act.run_pure]
  exact ⟨_, rfl⟩

/-- What opening a session tells its caller when the session cannot be created. -/
def openingFault (config : SessionConfig) (unit : UnitId) (fault : Fault) : Fault :=
  .suite (.session (some config.browser) (some unit)) ("Failed to initialize browser: " ++ fault.message) none []
    (some fault)

/-- The creation of a session for a unit that has no live one, right after it was announced. -/
def opening (config : SessionConfig) (n : SessionId) (outer : ω) : Except Fault Unit × ω :=
  (b.create n config).run (b.log .info ("Initializing " ++ config.browser ++ " browser") outer)

theorem openSession_idle (config : Option SessionConfig) (h : w.sessions.live? unit = none) :
    (b.openSession config unit).run w =
      match b.opening (config.getD b.defaultConfig) w.sessions.next w.outer with
      | (.ok (), x) => (.ok w.sessions.next, ⟨w.sessions.add unit, x⟩)
      | (.error fault, x) =>
        if fault.isInterrupt then (.error fault, ⟨w.sessions.discard unit, x⟩)
        else (.error (openingFault (config.getD b.defaultConfig) unit fault),
          ⟨w.sessions.discard unit, b.log .error ("Failed to initialize browser: " ++ fault.message) x⟩) := by
  have next : (w.sessions.discard unit).next = w.sessions.next :=
    congrArg (· + 1) (w.sessions.created_discard unit)
  simp only [openSession, opening, Act.run_bind, run_liveSession, h, World.run_modifySessions, run_note, Act.run_get,
    Act.run_attempt, World.run_zoom, next]
  cases (b.create w.sessions.next (config.getD b.defaultConfig)).run
      (b.log .info ("Initializing " ++ (config.getD b.defaultConfig).browser ++ " browser") w.outer) with
  | mk r x =>
    cases r with
    | ok _ =>
      dsimp only
      rw [← w.sessions.add_discard unit]
      rfl
    | error fault =>
      cases hf : fault.isInterrupt with
      | false =>
        simp [settled, hf, Act.run_bind, run_note]
        rfl
      | true => simp [settled, hf]

/-- A session is created with a configuration that only depends on the one it is opened with. -/
theorem openSession_new (config : Option SessionConfig) :
    ∃ config' message, ∀ (unit : UnitId) (w : World ω), w.sessions.live? unit = none →
      match (b.create w.sessions.next config').run (b.log .info message w.outer) with
      | (.ok (), x) => (b.openSession config unit).run w =
          (.ok w.sessions.next, ⟨w.sessions.add unit, x⟩)
      | (.error fault, x) => ∃ fault' y, (b.openSession config unit).run w =
          (.error fault', ⟨w.sessions.discard unit, y⟩) ∧ (y = x ∨ ∃ message, y = b.log .error message x) ∧
          (fault.isInterrupt = false → fault'.isInterrupt = false ∧
            fault'.message = "Failed to initialize browser: " ++ fault.message) := by
  refine ⟨config.getD b.defaultConfig,
    "Initializing " ++ (config.getD b.defaultConfig).browser ++ " browser", fun unit w h => ?_⟩
  have run_eq := b.openSession_idle unit w config h
  unfold opening at run_eq
  rw [run_eq]
  cases (b.create w.sessions.next (config.getD b.defaultConfig)).run
      (b.log .info ("Initializing " ++ (config.getD b.defaultConfig).browser ++ " browser") w.outer) with
  | mk r x =>
    cases r with
    | ok _ => rfl
    | error fault =>
      cases hf : fault.isInterrupt with
      | true => exact ⟨fault, x, if_pos hf, .inl rfl, fun calm => by rw [hf] at calm; cases calm⟩
      | false =>
        have calm : ¬ fault.isInterrupt = true := by rw [hf]; exact Bool.false_ne_true
        exact ⟨_, _, if_neg calm, .inr ⟨_, rfl⟩, fun _ => ⟨rfl, rfl⟩⟩

/-! ## Closing -/

section

variable {b unit w} (hc : b.closeFault = none)
include hc

theorem close_idle (h : w.sessions.live? unit = none) :
    (b.close unit).run w = (.ok (), { w with sessions := w.sessions.tearDown unit }) := by
  simp only [close, hc, Act.run_bind, run_liveSession, h, World.run_modifySessions]

theorem close_live {n : SessionId} (h : w.sessions.live? unit = some n)
    (hq : Ordinary ((b.browse n .quit).run w.outer).1) :
    ∃ level message, (b.close unit).run w =
      (.ok (), ⟨w.sessions.tearDown unit, b.log level message ((b.browse n .quit).run w.outer).2⟩) := by
  simp only [close, hc, Act.run_bind, run_liveSession, h, Act.run_attempt, World.run_zoom,
    settled_of_ordinary hq]
  cases (b.browse n .quit).run w.outer with
  | mk r x =>
    cases r with
    | ok _ => exact ⟨.info, _, rfl⟩
    | error fault => exact ⟨.error, _, rfl⟩

theorem close_ok (hq : ∀ n x, Ordinary ((b.browse n .quit).run x).1) (unit : UnitId) (w : World ω) :
    ∃ x, (b.close unit).run w = (.ok (), ⟨w.sessions.tearDown unit, x⟩) := by
  cases h : w.sessions.live? unit with
  | none => exact ⟨_, close_idle hc h⟩
  | some n =>
    obtain ⟨level, message, hrun⟩ := close_live hc h (hq n w.outer)
    exact ⟨_, hrun⟩

omit hc in
theorem reset_of_close {t : SessionTable} {x : ω} (h : (b.close unit).run w = (.ok (), ⟨t, x⟩)) :
    (b.reset unit).run w = (.ok (), ⟨t.erase unit, x⟩) := by
  simp only [reset, Act.run_bind, h, World.run_modifySessions]

/-- Closing all sessions resets each unit, and leaves no session. -/
theorem run_closeAll (hq : ∀ n x, Ordinary ((b.browse n .quit).run x).1) (w : World ω) :
    ∃ w', b.closeAll.run w = (.ok (), w') ∧ ∀ u, w'.sessions.live? u = none := by
  obtain ⟨w', resets, left⟩ := Act.run_forIn b.reset
    (fun units w' => w'.sessions.resetAll units = w.sessions.resetAll w.sessions.units)
    (fun u rest w' same => by
      obtain ⟨x, closed⟩ := close_ok hc hq u w'
      exact ⟨_, reset_of_close closed, same⟩) w.sessions.units w rfl
  refine ⟨w', ?_, fun u => ?_⟩
  · unfold closeAll
    rw [Act.run_bind, Act.run_get]
    dsimp only
    rw [Act.run_bind, resets]
    rfl
  · have emptied : w'.sessions = w.sessions.resetAll w.sessions.units := left
    rw [emptied]
    exact w.sessions.live?_resetAll_units u

end

end SessionBackend

/-! ## Screenshots -/

namespace Screenshots

variable {ω : Type} (b : SessionBackend ω) (clock : ω → Timestamp) (directory : FilePath)
variable {unit : UnitId} {w : World ω}

theorem onDemand_idle (label : String) (h : w.sessions.live? unit = none) :
    ∃ message, (onDemand b clock directory label unit).run w =
      (.ok none, { w with outer := b.log .error message w.outer }) := by
  have absent : ((SessionBackend.current (ω := ω) unit).attempt).run w =
      (.ok (.error (.absentSession unit)), w) := by
    simp only [SessionBackend.current, Act.run_attempt, Act.run_bind, SessionBackend.run_liveSession, h,
      Act.run_throw]
    rfl
  simp only [onDemand, Act.run_bind, absent, SessionBackend.run_note, Act.run_pure]
  exact ⟨_, rfl⟩

theorem onDemand_live (label : String) {n : SessionId} (h : w.sessions.live? unit = some n) :
    let file := (path directory label (clock w.outer)).text
    let saved := (b.browse n (.saveScreenshot file)).run w.outer
    ∃ r y, (onDemand b clock directory label unit).run w = (r, ⟨w.sessions, y⟩) ∧
      (y = saved.2 ∨ ∃ level message, y = b.log level message saved.2) ∧
      (Ordinary saved.1 → r = .ok (if saved.1.isOk then some file else none)) := by
  have present : ((SessionBackend.current (ω := ω) unit).attempt).run w = (.ok (.ok n), w) := by
    simp only [SessionBackend.current, Act.run_attempt, Act.run_bind, SessionBackend.run_liveSession, h,
      Act.run_pure]
    rfl
  simp only [onDemand, Act.run_bind, present, Act.run_get, Act.run_attempt, World.run_zoom]
  cases (b.browse n (.saveScreenshot (path directory label (clock w.outer)).text)).run w.outer with
  | mk r x =>
    cases r with
    | ok _ => exact ⟨_, _, rfl, .inr ⟨_, _, rfl⟩, fun _ => rfl⟩
    | error fault =>
      cases hf : fault.isInterrupt with
      | true =>
        refine ⟨.error fault, x, by simp only [settled, hf]; rfl, .inl rfl, fun ordinary => ?_⟩
        have never := ordinary fault rfl
        rw [hf] at never
        cases never
      | false => exact ⟨.ok none, _, by simp only [settled, hf]; rfl, .inr ⟨_, _, rfl⟩, fun _ => rfl⟩

theorem onFailure_idle (testId testName : String) (h : w.sessions.live? unit = none) :
    ∃ message, (onFailure b clock directory testId testName unit).run w =
      (.ok none, { w with outer := b.log .info message w.outer }) := by
  have inactive : (SessionBackend.isActive (ω := ω) unit).run w = (.ok false, w) := by
    simp only [SessionBackend.isActive, Act.run_bind, SessionBackend.run_liveSession, h, Act.run_pure]
    rfl
  simp only [onFailure, Act.run_bind, inactive]
  exact ⟨_, rfl⟩

theorem onFailure_live (testId testName : String) {n : SessionId} (h : w.sessions.live? unit = some n) :
    (onFailure b clock directory testId testName unit).run w =
      (onDemand b clock directory ("FAILURE_" ++ testId ++ "_" ++ testName) unit).run w := by
  have active : (SessionBackend.isActive (ω := ω) unit).run w = (.ok true, w) := by
    simp only [SessionBackend.isActive, Act.run_bind, SessionBackend.run_liveSession, h, Act.run_pure]
    rfl
  simp only [onFailure, Act.run_bind, active]
  rfl

end Screenshots

end KeywordSuite
