import KeywordSuite.Proofs.Case.Heedless
import KeywordSuite.Proofs.Suite.Following
import KeywordSuite.Proofs.Suite.Seclusion

/-!
# Two ways to follow a suite

A suite is echoed where everything but telling is answered the same, clocks included. Where telling takes time
a suite is still followed at another pace: then times differ, and what is stamped with them.
-/

namespace KeywordSuite

variable {ω ω' : Type} {R : ω → ω' → Prop} {s : Surroundings ω} {t : Surroundings ω'} {plan plan' : SuitePlan}

/-! ## Echoes -/

def Kinship.echoing : Kinship Unit where
  together _ _ := Echo
  first := ()
  results := Eq
  times := Eq

theorem SuitePlan.SameWork.echoing (same : plan.SameWork plan') (hr : plan.registry.Heedless) :
    plan.Akin .echoing plan' :=
  fun d u => Coupled.mono (echoes_run d hr same u) fun _ r _ equal => equal ▸ agreed_refl r

theorem SharedOp.silent_of_matters {op : SharedOp} (matters : ¬ op.IsAside) : op.isTelling = false := by
  cases op with
  | report | inform => exact absurd trivial matters
  | _ => rfl

theorem Surroundings.Agree.echoing (h : s.Agree R t) (aside : s.Indifferent R t) :
    s.Beside .echoing R (fun _ _ _ => True) t where
  backend := h.backend
  toIndifferent := aside
  passed _ _ same := congrArg CaseResult.passed same
  clock _ _ := .both (.same id) fun _ _ _ same => .done (same ▸ agreed_refl _)
  listActive := h.listActive
  together together _ _ _ related := by
    cases together with
    | same matters =>
      obtain ⟨replied, related⟩ := h.handle (SharedOp.silent_of_matters matters) _ _ related
      exact ⟨(), replied, trivial, related⟩
  first _ _ := trivial
  later _ _ _ := trivial

/-! ## Other paces -/

def Kinship.paced : Kinship Ties where
  together u := (tandem u u).together
  first := ⟨[], []⟩
  results := CaseResult.Alike
  times _ _ := True

theorem SuitePlan.SameWork.paced (same : plan.SameWork plan') (hr : plan.registry.Isolated) :
    plan.Akin .paced plan' :=
  fun d _ => (tied_run d hr same _ (le_refl _)).mono fun _ _ _ ended => ended.2.agreed

/-- From related states, actions that come to alike outcomes and to related states. -/
def Act.AgreeUpTo {σ τ α β : Type} (R : σ → τ → Prop) (V : α → β → Prop) (p : Act σ α) (q : Act τ β) : Prop :=
  ∀ x y, R x y → Matched True V (p.run x).1 (q.run y).1 ∧ R (p.run x).2 (q.run y).2

/-- Devices whose paths differ at most in time stamps. -/
inductive CaptureDevice.AgreeUnstamped (R : ω → ω' → Prop) : CaptureDevice ω → CaptureDevice ω' → Prop
  | absent : AgreeUnstamped R .absent .absent
  | screenshots (directory : FilePath) : AgreeUnstamped R (.screenshots directory) (.screenshots directory)
  | other {onDemand onFailure onDemand' onFailure'}
      (demanded : ∀ label unit, Act.AgreeUpTo R (Option.Rel TextAlike) (onDemand label unit) (onDemand' label unit))
      (failed : ∀ testId testName reason reason' unit, Option.Rel TextAlike reason reason' →
        Act.AgreeUpTo R (Option.Rel TextAlike) (onFailure testId testName reason unit)
          (onFailure' testId testName reason' unit)) :
      AgreeUnstamped R (.other onDemand onFailure) (.other onDemand' onFailure')

namespace Surroundings

/-- Surroundings that agree in everything but telling and clocks, where the stamp of a screenshot does not matter. -/
structure AgreeUnstamped (R : ω → ω' → Prop) (s : Surroundings ω) (t : Surroundings ω') : Prop
    extends AgreeUntimed R s t where
  capture : s.capture.AgreeUnstamped R t.capture
  shots : ∀ n directory label time time' x y, R x y →
    let shot := (s.browse n (.saveScreenshot (Screenshots.path directory label time).text)).run x
    let shot' := (t.browse n (.saveScreenshot (Screenshots.path directory label time').text)).run y
    shot.1.isOk = shot'.1.isOk ∧ R shot.2 shot'.2

theorem Indifferent.logged (h : s.Indifferent R t) {x x' : ω} {y y' : ω'} (related : R x y)
    (shape : x' = x ∨ ∃ level message, x' = s.log level message x)
    (shape' : y' = y ∨ ∃ level message, y' = t.log level message y) : R x' y' := by
  have worlds : World.Related R ⟨.empty, x⟩ ⟨.empty, y⟩ := ⟨rfl, related⟩
  obtain rfl | ⟨level, message, rfl⟩ := shape <;> obtain rfl | ⟨level', message', rfl⟩ := shape'
  · exact related
  · exact (h.right (.log level' message') trivial _ _ worlds).2.2
  · exact (h.left (.log level message) trivial _ _ worlds).2.2
  · have logged := (h.left (.log level message) trivial _ _ worlds).2
    exact (h.right (.log level' message') trivial _ _ logged).2.2

section

variable (h : s.AgreeUnstamped R t) (aside : s.Indifferent R t) (hs : s.Uninterrupted) (ht : t.Uninterrupted)
include h aside hs ht

theorem AgreeUnstamped.onDemand (directory : FilePath) (label : String) (u : UnitId) :
    Act.AgreeUpTo (World.Related R) (Option.Rel TextAlike)
      (Screenshots.onDemand s.toSessionBackend s.localNow directory label u)
      (Screenshots.onDemand t.toSessionBackend t.localNow directory label u) := by
  intro w w' related
  have same := congrArg (SessionTable.live? · u) related.1
  cases live : w.sessions.live? u with
  | none =>
    obtain ⟨message, left⟩ := Screenshots.onDemand_idle s.toSessionBackend s.localNow directory label live
    obtain ⟨message', right⟩ :=
      Screenshots.onDemand_idle t.toSessionBackend t.localNow directory label (same.symm.trans live)
    rw [left, right]
    exact ⟨.ok .none, related.1, aside.logged related.2 (.inr ⟨_, _, rfl⟩) (.inr ⟨_, _, rfl⟩)⟩
  | some n =>
    obtain ⟨r, y, left, shape, outcome⟩ :=
      Screenshots.onDemand_live s.toSessionBackend s.localNow directory label live
    obtain ⟨r', y', right, shape', outcome'⟩ :=
      Screenshots.onDemand_live t.toSessionBackend t.localNow directory label (same.symm.trans live)
    obtain ⟨saves, shots⟩ := h.shots n directory label (s.localNow w.outer) (t.localNow w'.outer) _ _ related.2
    rw [left, right, outcome (hs.browse _ _ _), outcome' (ht.browse _ _ _), saves]
    refine ⟨.ok ?_, related.1, aside.logged shots shape shape'⟩
    split
    · exact .some (.stamped directory label _ _)
    · exact .none

theorem AgreeUnstamped.captureOnDemand (label : String) (u : UnitId) :
    Act.AgreeUpTo (World.Related R) (Option.Rel TextAlike) (s.captureOnDemand label u) (t.captureOnDemand label u) := by
  have device := h.capture
  unfold Surroundings.captureOnDemand
  generalize s.capture = c, t.capture = c' at device
  cases device with
  | absent => exact fun _ _ related => ⟨.ok .none, related⟩
  | screenshots directory => exact h.onDemand aside hs ht directory label u
  | other demanded _ =>
    intro w w' related
    obtain ⟨matched, outer⟩ := demanded label u _ _ related.2
    exact ⟨matched, related.1, outer⟩

theorem AgreeUnstamped.captureOnFailure (testId testName : String) {reason reason' : Option String}
    (alike : Option.Rel TextAlike reason reason') (u : UnitId) :
    Act.AgreeUpTo (World.Related R) (Option.Rel TextAlike) (s.captureOnFailure testId testName reason u)
      (t.captureOnFailure testId testName reason' u) := by
  have device := h.capture
  unfold Surroundings.captureOnFailure
  generalize s.capture = c, t.capture = c' at device
  intro w w' related
  cases device with
  | absent => exact ⟨.ok .none, related⟩
  | other _ failed =>
    obtain ⟨matched, outer⟩ := failed testId testName reason reason' u alike _ _ related.2
    exact ⟨matched, related.1, outer⟩
  | screenshots directory =>
    have same := congrArg (SessionTable.live? · u) related.1
    dsimp only
    cases live : w.sessions.live? u with
    | none =>
      obtain ⟨message, left⟩ :=
        Screenshots.onFailure_idle s.toSessionBackend s.localNow directory testId testName live
      obtain ⟨message', right⟩ :=
        Screenshots.onFailure_idle t.toSessionBackend t.localNow directory testId testName (same.symm.trans live)
      rw [left, right]
      exact ⟨.ok .none, related.1, aside.logged related.2 (.inr ⟨_, _, rfl⟩) (.inr ⟨_, _, rfl⟩)⟩
    | some n =>
      rw [Screenshots.onFailure_live s.toSessionBackend s.localNow directory testId testName live,
        Screenshots.onFailure_live t.toSessionBackend t.localNow directory testId testName (same.symm.trans live)]
      exact h.onDemand aside hs ht directory _ u w w' related

end

end Surroundings

/-! ## The other way round -/

theorem Act.Agree.symm {σ τ α : Type} {R : σ → τ → Prop} {p : Act σ α} {q : Act τ α} (h : Act.Agree R p q) :
    Act.Agree (fun y x => R x y) q p :=
  fun y x related => ⟨(h x y related).1.symm, (h x y related).2⟩

theorem Act.AgreeUpTo.symm {σ τ : Type} {R : σ → τ → Prop} {p : Act σ (Option String)} {q : Act τ (Option String)}
    (h : Act.AgreeUpTo R (Option.Rel TextAlike) p q) : Act.AgreeUpTo (fun y x => R x y) (Option.Rel TextAlike) q p := by
  intro y x related
  obtain ⟨matched, related⟩ := h x y related
  exact ⟨matched.symm fun _ _ => TextAlike.symm_option, related⟩

theorem CaptureDevice.AgreeUnstamped.symm {c : CaptureDevice ω} {c' : CaptureDevice ω'} (h : c.AgreeUnstamped R c') :
    c'.AgreeUnstamped (fun y x => R x y) c := by
  cases h with
  | absent => exact .absent
  | screenshots directory => exact .screenshots directory
  | other demanded failed =>
    exact .other (fun label unit => (demanded label unit).symm) fun testId testName reason reason' unit alike =>
      (failed testId testName reason' reason unit (TextAlike.symm_option alike)).symm

namespace Surroundings

theorem AgreeUnstamped.symm (h : s.AgreeUnstamped R t) : t.AgreeUnstamped (fun y x => R x y) s where
  log level message y x related := h.backend.log level message x y related
  create n config := (h.backend.create n config).symm
  browse n call := (h.backend.browse n call).symm
  defaultConfig := h.backend.defaultConfig.symm
  closeFault := h.backend.closeFault.symm
  sleep seconds := (h.sleep seconds).symm
  listActive := h.listActive.symm
  loadInput testId := (h.loadInput testId).symm
  loadKeywords testId := (h.loadKeywords testId).symm
  outside action arguments := (h.outside action arguments).symm
  capture := h.capture.symm
  shots n directory label time time' y x related :=
    ⟨(h.shots n directory label time' time x y related).1.symm, (h.shots n directory label time' time x y related).2⟩

theorem Indifferent.symm (h : s.Indifferent R t) : t.Indifferent (fun y x => R x y) s where
  left op aside w' w related := by
    obtain ⟨reply, sessions, outer⟩ := h.right op aside w w' ⟨related.1.symm, related.2⟩
    exact ⟨reply, sessions.symm, outer⟩
  right op aside w' w related := by
    obtain ⟨reply, sessions, outer⟩ := h.left op aside w w' ⟨related.1.symm, related.2⟩
    exact ⟨reply, sessions.symm, outer⟩

end Surroundings

/-! ## Two runs at their own paces -/

/-- Worlds in which the runs have come as far as their ties say: they use the same sessions. -/
structure Even (s : Surroundings ω) (t : Surroundings ω') (k : Ties) (w : World ω) (w' : World ω') : Prop where
  sessions : ∀ n m, (n, m) ∈ k.sessions → n = m
  readings : ∀ a b, (a, b) ∈ k.readings → s.Read a w ∧ t.Read b w'

theorem even_start (w : World ω) (w' : World ω') : Even s t ⟨[], []⟩ w w' := ⟨by simp, by simp⟩

theorem Even.later {k : Ties} {w w₁ : World ω} {w' w₁' : World ω'} (h : Even s t k w w') (left : s.Later w w₁)
    (right : t.Later w' w₁') : Even s t k w₁ w₁' where
  sessions := h.sessions
  readings a b read := ⟨(h.readings a b read).1.later left, (h.readings a b read).2.later right⟩

section

variable {u : UnitId} {k : Ties} {op op' : SharedOp} {fails : Prop} {V : Ties → op.Reply → op'.Reply → Prop}
  {w : World ω} {w' : World ω'}

/-- The runs answer alike, and go on at a stage that has grown. -/
def Continues (R : ω → ω' → Prop) (s : Surroundings ω) (t : Surroundings ω') (k : Ties) (op op' : SharedOp)
    (fails : Prop) (V : Ties → op.Reply → op'.Reply → Prop) (w : World ω) (w' : World ω') : Prop :=
  ∃ k', (k ≤ k' ∧ Matched fails (V k') ((s.handle op).run w).1 ((t.handle op').run w').1) ∧
    Even s t k' ((s.handle op).run w).2 ((t.handle op').run w').2 ∧
    World.Related R ((s.handle op).run w).2 ((t.handle op').run w').2

variable (even : Even s t k w w') (related : World.Related R w w')
include even

theorem Even.continues (matched : Matched fails (V k) ((s.handle op).run w).1 ((t.handle op').run w').1)
    (related : World.Related R ((s.handle op).run w).2 ((t.handle op').run w').2) :
    Continues R s t k op op' fails V w w' :=
  ⟨k, ⟨le_refl k, matched⟩, even.later (.step op .refl) (.step op' .refl), related⟩

theorem Even.continues_paired {fails : Prop} {op op' : SharedOp} {V : Ties → op.Reply → op'.Reply → Prop}
    (n : SessionId) (matched : Matched fails (V ⟨(n, n) :: k.sessions, k.readings⟩) ((s.handle op).run w).1
      ((t.handle op').run w').1)
    (related : World.Related R ((s.handle op).run w).2 ((t.handle op').run w').2) :
    Continues R s t k op op' fails V w w' := by
  have grown : k ≤ ⟨(n, n) :: k.sessions, k.readings⟩ := ⟨List.subset_cons_self _ _, List.Subset.refl _⟩
  have even' := even.later (.step op .refl) (.step op' .refl)
  refine ⟨_, ⟨grown, matched⟩, ⟨fun a b pair => ?_, even'.readings⟩, related⟩
  rcases List.mem_cons.1 pair with new | old
  · cases new
    rfl
  · exact even'.sessions a b old

include related

theorem Even.continues_stopwatch :
    Continues R s t k .stopwatch .stopwatch False (fun k' a b => (a, b) ∈ k'.readings) w w' := by
  refine ⟨⟨k.sessions, (s.stopwatch w.outer, t.stopwatch w'.outer) :: k.readings⟩,
    ⟨⟨List.Subset.refl _, List.subset_cons_self _ _⟩, .ok List.mem_cons_self⟩, ⟨even.sessions, fun a b read => ?_⟩,
    related⟩
  rcases List.mem_cons.1 read with new | old
  · cases new
    exact ⟨⟨w, .refl, rfl⟩, ⟨w', .refl, rfl⟩⟩
  · exact even.readings a b old

end

section

variable {k : Ties} {w : World ω} {w' : World ω'}

theorem matched_paired {r r' : Except Fault SessionId} (h : Matched True Eq r r') (pairs : List (SessionId × SessionId)) :
    ∃ n, Matched True (fun a b => (a, b) ∈ (n, n) :: pairs) r r' := by
  cases h with
  | @ok n _ same =>
    subst same
    exact ⟨n, .ok List.mem_cons_self⟩
  | error may alike => exact ⟨0, .error may alike⟩

/-- Whatever two runs do in tandem on a unit, they go on evenly. -/
theorem Surroundings.AgreeUnstamped.continues (h : s.AgreeUnstamped R t) (aside : s.Indifferent R t)
    (hs : s.Orderly) (ht : t.Orderly) {u : UnitId} {op op' : SharedOp} {fails : Prop}
    {V : Ties → op.Reply → op'.Reply → Prop} (tandem : Tandem u u k op op' fails V) (even : Even s t k w w')
    (related : World.Related R w w') : Continues R s t k op op' fails V w w' := by
  -- What reads no clock is answered the same, and the user interrupts nothing.
  have same : ∀ op : SharedOp, op.isTelling = false → op.isTimed = false →
      Matched True Eq ((s.handle op).run w).1 ((t.handle op).run w').1 ∧
        World.Related R ((s.handle op).run w).2 ((t.handle op).run w').2 := by
    intro op silent untimed
    obtain ⟨replied, related⟩ := h.toAgreeUntimed.handle silent untimed w w' related
    refine ⟨?_, related⟩
    rw [← replied]
    exact matched_refl (Surroundings.ordinarily_handle hs.toUninterrupted op w)
  have live : ∀ u, w.sessions.live? u = w'.sessions.live? u := fun u => congrArg (SessionTable.live? · u) related.1
  have closes := SessionBackend.close_ok hs.closes (hs.browse · .quit)
  have closes' := SessionBackend.close_ok ht.closes (ht.browse · .quit)
  cases tandem with
  | now => exact even.continues (.ok trivial) related
  | stopwatch => exact even.continues_stopwatch related
  | elapsed read =>
    obtain ⟨left, right⟩ := even.readings _ _ read
    exact even.continues (.ok ⟨left.elapsed hs, right.elapsed ht⟩) related
  | sleep seconds =>
    obtain ⟨matched, related⟩ := same (.sleep seconds) rfl rfl
    exact even.continues (matched.mono fun _ _ _ => trivial) related
  | openSession config =>
    obtain ⟨matched, related⟩ := same (.openSession config u) rfl rfl
    obtain ⟨n, paired⟩ := matched_paired matched k.sessions
    exact even.continues_paired n paired related
  | currentSession =>
    obtain ⟨matched, related⟩ := same (.currentSession u) rfl rfl
    obtain ⟨n, paired⟩ := matched_paired matched k.sessions
    exact even.continues_paired n paired related
  | closeSession =>
    obtain ⟨x, left⟩ := closes u w
    obtain ⟨y, right⟩ := closes' u w'
    refine even.continues ?_ (same (.closeSession u) rfl rfl).2
    show Matched False _ ((s.close u).run w).1 ((t.close u).run w').1
    rw [left, right]
    exact .ok trivial
  | resetSession =>
    obtain ⟨x, left⟩ := closes u w
    obtain ⟨y, right⟩ := closes' u w'
    refine even.continues ?_ (same (.resetSession u) rfl rfl).2
    show Matched False _ ((s.reset u).run w).1 ((t.reset u).run w').1
    rw [SessionBackend.reset_of_close left, SessionBackend.reset_of_close right]
    exact .ok trivial
  | isActive => exact even.continues (.ok (congrArg Option.isSome (live u))) related
  | @isCurrent n m pair =>
    obtain rfl := even.sessions n m pair
    exact even.continues (.ok (congrArg (· == some n) (live u))) related
  | @browse n m pair call =>
    obtain rfl := even.sessions n m pair
    obtain ⟨matched, related⟩ := same (.browse n call) rfl rfl
    exact even.continues matched related
  | captureOnDemand label =>
    obtain ⟨matched, related⟩ := h.captureOnDemand aside hs.toUninterrupted ht.toUninterrupted label u w w' related
    exact even.continues matched related
  | captureOnFailure testId testName alike =>
    obtain ⟨matched, related⟩ :=
      h.captureOnFailure aside hs.toUninterrupted ht.toUninterrupted testId testName alike u w w' related
    exact even.continues matched related
  | loadInput testId =>
    obtain ⟨matched, related⟩ := same (.loadInput testId) rfl rfl
    exact even.continues matched related
  | loadKeywords testId =>
    obtain ⟨matched, related⟩ := same (.loadKeywords testId) rfl rfl
    exact even.continues matched related

theorem Surroundings.AgreeUnstamped.paced (h : s.AgreeUnstamped R t) (aside : s.Indifferent R t) (hs : s.Orderly)
    (ht : t.Orderly) : s.Beside .paced R (Even s t) t where
  backend := h.backend
  toIndifferent := aside
  passed _ _ alike := alike.passed
  clock u k := (tied_perform (.now (u := u) (v := u)) k (le_refl k)).mono fun _ _ _ ended => ended.2.agreed
  listActive := h.listActive
  together together _ _ even related := by
    obtain ⟨fails, V, tandem, rfl⟩ := together
    exact h.continues aside hs ht tandem even related
  first := even_start
  later even left right := even.later left right

end

end KeywordSuite
