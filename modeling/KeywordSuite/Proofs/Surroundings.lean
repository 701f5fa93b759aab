import KeywordSuite.Proofs.Session.Registry

/-!
# Runs in given surroundings

What a procedure comes to when the surroundings answer each of its operations, and which faults can
reach it there. Collaborators that raise ordinary faults only make every operation one that does.
-/

namespace KeywordSuite

namespace Surroundings

variable {ω σ α β : Type} (s : Surroundings ω)

/-- The protocol of what the surroundings really answer; its stage is the world. -/
def actual : Protocol SharedOp.Reply (World ω) := Program.handled s.handle

/-- A world that operations lead to from another. -/
inductive Later (w : World ω) : World ω → Prop
  | refl : Later w w
  | step {w' : World ω} (op : SharedOp) : Later w w' → Later w ((s.handle op).run w').2

/-- Every collaborator may raise what it likes, except an interruption; closing a session works. -/
structure Uninterrupted : Prop where
  create : ∀ session config, (s.create session config).Ordinarily
  browse : ∀ session call, (s.browse session call).Ordinarily
  sleep : ∀ seconds, (s.sleep seconds).Ordinarily
  loadInput : ∀ testId, (s.source.loadInput testId).Ordinarily
  loadKeywords : ∀ testId, (s.source.loadKeywords testId).Ordinarily
  report : ∀ tell, s.report = some tell → ∀ call, (tell call).Ordinarily
  capture : ∀ onDemand onFailure, s.capture = .other onDemand onFailure →
    (∀ label unit, (onDemand label unit).Ordinarily) ∧
      ∀ testId testName reason unit, (onFailure testId testName reason unit).Ordinarily
  listeners : ∀ l ∈ s.listeners, ∀ news, (l.tell news).Ordinarily
  outside : ∀ action arguments, (s.outside action arguments).Ordinarily
  closes : s.closeFault = none

/-- Such surroundings with a stopwatch that never goes back. -/
structure Orderly : Prop extends s.Uninterrupted where
  steady : ∀ w w', s.Later w w' → 0.0 ≤ s.stopwatch w'.outer - s.stopwatch w.outer

end Surroundings

/-! ## Operations -/

namespace SessionBackend

variable {ω : Type} {b : SessionBackend ω}

theorem ordinarily_note (level : LogLevel) (message : String) : (b.note level message).Ordinarily :=
  fun _ => ordinary_ok ()

theorem ordinarily_liveSession (unit : UnitId) : (liveSession? (ω := ω) unit).Ordinarily :=
  fun _ => ordinary_ok _

theorem ordinarily_current (unit : UnitId) : (current (ω := ω) unit).Ordinarily := by
  refine (ordinarily_liveSession unit).bind fun found => ?_
  cases found with
  | some session => exact Act.ordinarily_pure session
  | none => exact Act.ordinarily_throw rfl

theorem ordinarily_openSession (hc : ∀ session config, (b.create session config).Ordinarily)
    (config : Option SessionConfig) (unit : UnitId) : (b.openSession config unit).Ordinarily := by
  intro w
  cases hl : w.sessions.live? unit with
  | some n =>
    obtain ⟨message, hrun⟩ := b.openSession_live unit w config hl
    rw [hrun]
    exact ordinary_ok n
  | none =>
    obtain ⟨config', message, new⟩ := b.openSession_new config
    have hrun := new unit w hl
    have created := hc w.sessions.next config' (b.log .info message w.outer)
    cases hr : (b.create w.sessions.next config').run (b.log .info message w.outer) with
    | mk r x =>
      rw [hr] at hrun created
      cases r with
      | ok _ =>
        rw [hrun]
        exact ordinary_ok _
      | error fault =>
        obtain ⟨fault', y, hrun, -, keeps⟩ := hrun
        rw [hrun]
        intro other h
        cases h
        exact (keeps (created fault rfl)).1

theorem ordinarily_close (hc : b.closeFault = none) (hq : ∀ session, (b.browse session .quit).Ordinarily)
    (unit : UnitId) : (b.close unit).Ordinarily := by
  intro w
  obtain ⟨x, hrun⟩ := close_ok hc hq unit w
  rw [hrun]
  exact ordinary_ok ()

theorem ordinarily_reset (hc : b.closeFault = none) (hq : ∀ session, (b.browse session .quit).Ordinarily)
    (unit : UnitId) : (b.reset unit).Ordinarily :=
  (ordinarily_close hc hq unit).bind fun _ _ => ordinary_ok ()

end SessionBackend

namespace Screenshots

variable {ω : Type} {b : SessionBackend ω}

theorem ordinarily_onDemand (hb : ∀ session call, (b.browse session call).Ordinarily)
    (clock : ω → Timestamp) (directory : FilePath) (label : String) (unit : UnitId) :
    (onDemand b clock directory label unit).Ordinarily := by
  refine (SessionBackend.ordinarily_current unit).attempt.bind fun found => ?_
  cases found with
  | error fault => exact (SessionBackend.ordinarily_note _ _).bind fun _ => Act.ordinarily_pure none
  | ok session =>
    intro w
    rw [Act.run_bind, Act.run_get]
    refine Act.Ordinarily.bind (hb session _).zoom.attempt (fun saved => ?_) w
    cases saved <;> exact (SessionBackend.ordinarily_note _ _).bind fun _ => Act.ordinarily_pure _

theorem ordinarily_onFailure (hb : ∀ session call, (b.browse session call).Ordinarily)
    (clock : ω → Timestamp) (directory : FilePath) (testId testName : String) (unit : UnitId) :
    (onFailure b clock directory testId testName unit).Ordinarily := by
  have active : (SessionBackend.isActive (ω := ω) unit).Ordinarily := fun _ => ordinary_ok _
  refine active.bind fun live => ?_
  cases live with
  | true => exact ordinarily_onDemand hb clock directory _ unit
  | false => exact (SessionBackend.ordinarily_note _ _).bind fun _ => Act.ordinarily_pure none

end Screenshots

namespace Surroundings

variable {ω σ α β : Type} {s : Surroundings ω}

theorem ordinarily_tellReport (h : ∀ tell, s.report = some tell → ∀ call, (tell call).Ordinarily) (call : ReportCall) :
    (s.tellReport call).Ordinarily := by
  unfold Surroundings.tellReport
  split
  · rename_i tell hr
    exact (h tell hr call).zoom
  · exact Act.ordinarily_pure none

theorem ordinarily_captureOnDemand (h : s.Uninterrupted) (label : String) (unit : UnitId) :
    (s.captureOnDemand label unit).Ordinarily := by
  unfold captureOnDemand
  split
  · exact Act.ordinarily_pure none
  · exact Screenshots.ordinarily_onDemand h.browse _ _ _ _
  · rename_i onDemand onFailure hc
    exact ((h.capture onDemand onFailure hc).1 label unit).zoom

theorem ordinarily_captureOnFailure (h : s.Uninterrupted) (testId testName : String)
    (reason : Option String) (unit : UnitId) :
    (s.captureOnFailure testId testName reason unit).Ordinarily := by
  unfold captureOnFailure
  split
  · exact Act.ordinarily_pure none
  · exact Screenshots.ordinarily_onFailure h.browse _ _ _ _ _
  · rename_i onDemand onFailure hc
    exact ((h.capture onDemand onFailure hc).2 testId testName reason unit).zoom

theorem ordinarily_inform (h : ∀ l ∈ s.listeners, ∀ news, (l.tell news).Ordinarily) (listener : Nat) (news : SuiteNews) :
    (s.inform listener news).Ordinarily := by
  unfold inform
  split
  · rename_i l hl
    exact (h l (List.mem_of_getElem? hl) news).zoom
  · exact Act.ordinarily_pure ()

theorem ordinarily_handle (h : s.Uninterrupted) (op : SharedOp) : (s.handle op).Ordinarily := by
  cases op with
  | log level message => exact SessionBackend.ordinarily_note level message
  | now => exact fun _ => ordinary_ok _
  | stopwatch => exact fun _ => ordinary_ok _
  | sleep seconds => exact (h.sleep seconds).zoom
  | openSession config unit => exact SessionBackend.ordinarily_openSession h.create config unit
  | closeSession unit => exact SessionBackend.ordinarily_close h.closes (h.browse · .quit) unit
  | resetSession unit => exact SessionBackend.ordinarily_reset h.closes (h.browse · .quit) unit
  | currentSession unit => exact SessionBackend.ordinarily_current unit
  | isActive unit => exact fun _ => ordinary_ok _
  | isCurrent session unit => exact fun _ => ordinary_ok _
  | browse session call => exact (h.browse session call).zoom
  | report call => exact s.ordinarily_tellReport h.report call
  | captureOnDemand label unit => exact s.ordinarily_captureOnDemand h label unit
  | captureOnFailure testId testName reason unit =>
    exact s.ordinarily_captureOnFailure h testId testName reason unit
  | inform listener news => exact s.ordinarily_inform h.listeners listener news
  | loadInput testId => exact (h.loadInput testId).zoom
  | loadKeywords testId => exact (h.loadKeywords testId).zoom
  | outside action arguments => exact (h.outside action arguments).zoom

/-! ## Procedures -/

theorem keeps_actual (p : Program SharedOp.Reply α) (w : World ω) (post : α → World ω → Prop) :
    p.Keeps s.actual w post ↔ post (p.run s.handle w).1 (p.run s.handle w).2 :=
  Program.keeps_handled s.handle p post w

theorem Later.run (p : Program SharedOp.Reply α) {w : World ω} :
    ∀ {w' : World ω}, s.Later w w' → s.Later w (p.run s.handle w').2 := by
  induction p with
  | done a => exact id
  | call op resume ih => exact fun h => ih _ (h.step op)

theorem Later.trans {w w' w'' : World ω} (h : s.Later w w') (h' : s.Later w' w'') : s.Later w w'' := by
  induction h' with
  | refl => exact h
  | step op _ ih => exact ih.step op

theorem keeps_later {p : Program SharedOp.Reply α} {w : World ω} {post : α → World ω → Prop}
    (h : p.Keeps s.actual w post) : p.Keeps s.actual w fun a w' => s.Later w w' ∧ post a w' :=
  (keeps_actual p w _).2 ⟨Later.refl.run p, (keeps_actual p w post).1 h⟩

theorem meets_later {p : ExceptT Fault (StateT σ (Program SharedOp.Reply)) α} {x : σ} {w : World ω}
    {post : Except Fault α → σ → World ω → Prop} (h : Meets s.actual p x w post) :
    Meets s.actual p x w fun r y w' => s.Later w w' ∧ post r y w' :=
  keeps_later h

theorem keeps_run {p : Program SharedOp.Reply α} {w : World ω} {post : α → World ω → Prop}
    (h : p.Keeps s.actual w post) :
    p.Keeps s.actual w fun a w' => p.run s.handle w = (a, w') ∧ post a w' :=
  (keeps_actual p w _).2 ⟨rfl, (keeps_actual p w post).1 h⟩

theorem meets_run {p : ExceptT Fault (StateT σ (Program SharedOp.Reply)) α} {x : σ} {w : World ω}
    {post : Except Fault α → σ → World ω → Prop} (h : Meets s.actual p x w post) :
    Meets s.actual p x w fun r y w' =>
      (StateT.run (ExceptT.run p) x).run s.handle w = ((r, y), w') ∧ post r y w' :=
  keeps_run h

theorem run_of_keeps {p : SharedProcedure α} {w : World ω} {post : Except Fault α → World ω → Prop}
    (h : (ExceptT.run p).Keeps s.actual w post) : ∃ r w', (s.perform p).run w = (r, w') ∧ post r w' :=
  ⟨_, _, rfl, (keeps_actual _ w post).1 h⟩

theorem exists_of_meets {p : ExceptT Fault (StateT σ (Program SharedOp.Reply)) α} {x : σ} {w : World ω}
    {post : Except Fault α → σ → World ω → Prop} (h : Meets s.actual p x w post) :
    ∃ r y w', (StateT.run (ExceptT.run p) x).run s.handle w = ((r, y), w') ∧ post r y w' :=
  ⟨_, _, _, rfl, (keeps_actual _ w _).1 h⟩

variable (s)

/-- Whatever a shared procedure meets, it comes to a value. -/
def Answers (p : SharedProcedure α) : Prop :=
  ∀ w, (ExceptT.run p).Keeps s.actual w fun r _ => ∃ a, r = .ok a

/-- Whatever a procedure meets, it ends in no interruption by the user. -/
def Ordinarily (p : ExceptT Fault (StateT σ (Program SharedOp.Reply)) α) : Prop :=
  ∀ x w, Meets s.actual p x w fun r _ _ => Ordinary r

variable {s}

theorem answers_pure (a : α) : s.Answers (pure a) := fun _ => ⟨a, rfl⟩

theorem Answers.bind {p : SharedProcedure α} {f : α → SharedProcedure β} (hp : s.Answers p)
    (hf : ∀ a, s.Answers (f a)) : s.Answers (p >>= f) := by
  intro w
  rw [keeps_seq]
  refine (hp w).mono ?_
  intro _ w' told
  obtain ⟨a, rfl⟩ := told
  exact hf a w'

theorem answers_log (level : LogLevel) (message : String) : s.Answers (SharedProcedure.log level message) :=
  fun w => keeps_perform.2 ⟨w, rfl, by rintro _ rfl; exact ⟨(), rfl⟩⟩

theorem answers_attempt {op : SharedOp} (ordinary : (s.handle op).Ordinarily) :
    s.Answers (SharedProcedure.perform op).attempt := by
  intro w
  rw [keeps_attempt, keeps_perform]
  refine ⟨w, rfl, ?_⟩
  intro _ same
  subst same
  exact ⟨_, settled_of_ordinary (ordinary w)⟩

theorem meets_cleanUp (h : s.Uninterrupted) {c : Context} {w : World ω} :
    Meets s.actual ContextProcedure.cleanUp c w fun r c' _ => r = .ok () ∧
      c' = { c with cleanedUp := true, session := none, scratch := [] } := by
  have current : ∀ session, s.actual.Serves (fun _ => True) (.isCurrent session c.identity.unit) := by
    intro session w _
    refine ⟨w, rfl, ?_⟩
    intro _ same
    subst same
    exact ⟨⟨_, rfl⟩, trivial⟩
  have closes : s.actual.Serves (fun _ => True) (.closeSession c.identity.unit) := by
    intro w _
    refine ⟨w, rfl, ?_⟩
    intro _ same
    subst same
    obtain ⟨x, closed⟩ := SessionBackend.close_ok h.closes (h.browse · .quit) c.identity.unit w
    exact ⟨⟨(), congrArg Prod.fst closed⟩, trivial⟩
  refine (KeywordSuite.meets_cleanUp current closes trivial).mono ?_
  intro r c' w' hr
  exact ⟨hr.1, hr.2.1⟩

end Surroundings

/-- Running the keyword is never interrupted in given surroundings, whatever it meets there. -/
def KeywordEntry.Uninterrupted {ω : Type} (s : Surroundings ω) (e : KeywordEntry) : Prop :=
  ∀ id, s.Ordinarily (e.body id).runIn

def KeywordRegistry.Uninterrupted {ω : Type} (s : Surroundings ω) (r : KeywordRegistry) : Prop :=
  ∀ name e, r.resolve? name = some e → e.Uninterrupted s

end KeywordSuite
