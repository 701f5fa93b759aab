import KeywordSuite.Proofs.Suite.Isolation
import KeywordSuite.Proofs.Suite.Kinships

/-!
# Reporting never influences the outcome

A suite of keywords that drive the browser comes to the same results and makes the same calls on the way,
whether there is a report and there are listeners, or none; whatever telling them returns or raises, and
however long it takes.
-/

namespace KeywordSuite

variable {ω φ α : Type}

/-! ## Calls on sessions and capture devices -/

inductive OutwardCall
  | created (session : SessionId) (config : SessionConfig)
  | called (session : SessionId) (call : SessionCall)
  | captured (label : String) (unit : UnitId)
  | failureCaptured (testId testName : String) (reason : Option String) (unit : UnitId)
  deriving DecidableEq

/-- Calls that differ at most in time stamps. -/
inductive OutwardCall.Alike : OutwardCall → OutwardCall → Prop
  | same (call : OutwardCall) : Alike call call
  | shot (session : SessionId) (directory : FilePath) (label : String) (time time' : Timestamp) :
      Alike (.called session (.saveScreenshot (Screenshots.path directory label time).text))
        (.called session (.saveScreenshot (Screenshots.path directory label time').text))
  | failure (testId testName : String) {reason reason' : Option String} (unit : UnitId) :
      Option.Rel TextAlike reason reason' →
      Alike (.failureCaptured testId testName reason unit) (.failureCaptured testId testName reason' unit)

structure Taped (ω : Type) where
  outer : ω
  /-- The calls that were made, in order. -/
  calls : List OutwardCall

namespace Taped

def lift (act : Act ω α) : Act (Taped ω) α := Act.zoom Taped.outer (fun outer x => { x with outer }) act

/-- Notes a call, and makes it. -/
def noting (call : OutwardCall) (act : Act ω α) : Act (Taped ω) α :=
  Act.make fun x =>
    let (r, outer) := act.run x.outer
    (r, ⟨outer, x.calls ++ [call]⟩)

/-- Beside the calls that were made, the same state. -/
def Beside (x : Taped ω) (outer : ω) : Prop := x.outer = outer

theorem lift_beside (act : Act ω α) : Act.Agree Taped.Beside (lift act) act := by
  rintro x _ rfl
  exact ⟨rfl, rfl⟩

theorem noting_beside (call : OutwardCall) (act : Act ω α) : Act.Agree Taped.Beside (noting call act) act := by
  rintro x _ rfl
  exact ⟨rfl, rfl⟩

end Taped

/-- A device of another make is called; the one that takes screenshots makes calls on sessions. -/
def CaptureDevice.taped : CaptureDevice ω → CaptureDevice (Taped ω)
  | .absent => .absent
  | .screenshots directory => .screenshots directory
  | .other onDemand onFailure =>
    .other (fun label unit => Taped.noting (.captured label unit) (onDemand label unit))
      fun testId testName reason unit =>
        Taped.noting (.failureCaptured testId testName reason unit) (onFailure testId testName reason unit)

namespace Surroundings

/-- The same surroundings, where every call that creates a session, acts on one or captures a view is noted. -/
def taped (s : Surroundings ω) : Surroundings (Taped ω) where
  log level message x := { x with outer := s.log level message x.outer }
  create n config := Taped.noting (.created n config) (s.create n config)
  browse n call := Taped.noting (.called n call) (s.browse n call)
  defaultConfig := s.defaultConfig
  closeFault := s.closeFault
  now x := s.now x.outer
  localNow x := s.localNow x.outer
  stopwatch x := s.stopwatch x.outer
  sleep seconds := Taped.lift (s.sleep seconds)
  source := ⟨Taped.lift s.source.listActive, fun testId => Taped.lift (s.source.loadInput testId),
    fun testId => Taped.lift (s.source.loadKeywords testId)⟩
  report := s.report.map fun tell call => Taped.lift (tell call)
  capture := s.capture.taped
  listeners := s.listeners.map fun l => ⟨l.name, fun news => Taped.lift (l.tell news)⟩
  outside action arguments := Taped.lift (s.outside action arguments)

theorem taped_agrees (s : Surroundings ω) : s.taped.AgreeFully Taped.Beside s where
  log level message := by rintro x _ rfl; rfl
  create _ _ := Taped.noting_beside _ _
  browse _ _ := Taped.noting_beside _ _
  defaultConfig := rfl
  closeFault := rfl
  now := by rintro x _ rfl; rfl
  localNow := by rintro x _ rfl; rfl
  stopwatch := by rintro x _ rfl; rfl
  sleep _ := Taped.lift_beside _
  listActive := Taped.lift_beside _
  loadInput _ := Taped.lift_beside _
  loadKeywords _ := Taped.lift_beside _
  capture := by
    unfold taped
    cases s.capture with
    | absent => exact .absent
    | screenshots directory => exact .screenshots directory
    | other onDemand onFailure =>
      exact .other (fun _ _ => Taped.noting_beside _ _) fun _ _ _ _ => Taped.noting_beside _ _
  outside _ _ := Taped.lift_beside _
  report call := by
    have device : s.taped.report = s.report.map fun tell call => Taped.lift (tell call) := rfl
    unfold Surroundings.tellReport
    rw [device]
    cases s.report with
    | none => exact Act.agree_pure none
    | some tell => exact (Taped.lift_beside _).zoom
  inform listener news := by
    have device : s.taped.listeners = s.listeners.map fun l => ⟨l.name, fun news => Taped.lift (l.tell news)⟩ := rfl
    unfold Surroundings.inform
    rw [device, List.getElem?_map]
    cases s.listeners[listener]? with
    | none => exact Act.agree_pure ()
    | some l => exact (Taped.lift_beside _).zoom

/-- The calls that a suite makes on sessions and capture devices, from its first to its last. -/
def callsOf (s : Surroundings ω) (plan : SuitePlan) (schedule : List Nat) (w : World ω) : List OutwardCall :=
  (s.taped.runSuite plan schedule ⟨w.sessions, ⟨w.outer, []⟩⟩).2.outer.calls

/-- A suite whose calls are noted ends as it does otherwise. -/
theorem runSuite_taped (s : Surroundings ω) (plan : SuitePlan) (schedule : List Nat) (w : World ω) :
    let ended := s.taped.runSuite plan schedule ⟨w.sessions, ⟨w.outer, []⟩⟩
    s.runSuite plan schedule w = (ended.1, ⟨ended.2.sessions, ended.2.outer.outer⟩) := by
  have beside : World.Related Taped.Beside ⟨w.sessions, ⟨w.outer, []⟩⟩ w := ⟨rfl, rfl⟩
  obtain ⟨outcome, related⟩ := (taped_agrees s).runSuite plan schedule beside
  exact Prod.ext outcome.symm (World.eq_of_related related)

/--
However the turns of one suite are scheduled, another has a schedule with which it comes to a summary that is
related by its results and times, or to the same fault, after related calls. One after another, the schedule
does not matter.
-/
def SameCourse (V : CaseResult → CaseResult → Prop) (T : Timestamp → Timestamp → Prop)
    (E : OutwardCall → OutwardCall → Prop) (s : Surroundings ω) (plan : SuitePlan) (t : Surroundings ω)
    (plan' : SuitePlan) (w : World ω) : Prop :=
  ∀ schedule, ∃ schedule', (plan.workers ≤ 1 → schedule' = schedule) ∧
    Agreed (SuiteSummary.Rel V T) (s.runSuite plan schedule w).1.summary (t.runSuite plan' schedule' w).1.summary ∧
    List.Forall₂ E (s.callsOf plan schedule w) (t.callsOf plan' schedule' w)

/-- The same course to the same summary, times included, after the same calls. -/
abbrev ExactCourse : Surroundings ω → SuitePlan → Surroundings ω → SuitePlan → World ω → Prop := SameCourse Eq Eq Eq

/-- The same course but for times and what is stamped with them. -/
abbrev AlikeCourse : Surroundings ω → SuitePlan → Surroundings ω → SuitePlan → World ω → Prop :=
  SameCourse CaseResult.Alike (fun _ _ => True) OutwardCall.Alike

theorem ExactCourse.equal {s t : Surroundings ω} {plan plan' : SuitePlan} {w : World ω}
    (h : ExactCourse s plan t plan' w) (schedule : List Nat) :
    ∃ schedule', (s.runSuite plan schedule w).1.summary = (t.runSuite plan' schedule' w).1.summary ∧
      s.callsOf plan schedule w = t.callsOf plan' schedule' w := by
  obtain ⟨schedule', -, summary, calls⟩ := h schedule
  rw [List.forall₂_eq_eq_eq] at calls
  refine ⟨schedule', ?_, calls⟩
  generalize (s.runSuite plan schedule w).1.summary = x, (t.runSuite plan' schedule' w).1.summary = y at summary
  cases summary with
  | ok alike => exact congrArg _ alike.eq
  | error fault => rfl

/-! ## Telling apart from everything else -/

/-- Without a report and without listeners. -/
def quiet (s : Surroundings ω) : Surroundings ω := { s with report := none, listeners := [] }

theorem handle_quiet (s : Surroundings ω) {op : SharedOp} (silent : op.isTelling = false) :
    s.quiet.handle op = s.handle op := by
  cases op with
  | report | inform => cases silent
  | _ => rfl

theorem later_quiet {s : Surroundings ω} {w w' : World ω} (h : s.quiet.Later w w') : s.Later w w' := by
  induction h with
  | refl => exact .refl
  | step op _ ih =>
    cases telling : op.isTelling with
    | false =>
      rw [s.handle_quiet telling]
      exact ih.step op
    | true =>
      cases op with
      | report | inform => exact ih
      | _ => cases telling

theorem orderly_quiet {s : Surroundings ω} (h : s.Orderly) : s.quiet.Orderly where
  __ := h
  report _ told := by cases told
  listeners _ member := by cases member
  steady w w' later := h.steady w w' (later_quiet later)

end Surroundings

def SuitePlan.quiet (plan : SuitePlan) : SuitePlan := { plan with listeners := [] }

theorem SuitePlan.sameWork_quiet (plan : SuitePlan) : plan.SameWork plan.quiet := ⟨rfl, rfl, rfl⟩

theorem SuitePlan.quiet_sameWork (plan : SuitePlan) : plan.quiet.SameWork plan := ⟨rfl, rfl, rfl⟩

/-- An action that may raise anything but an interruption, and changes nothing of a view. -/
def Act.Unseen (view : ω → φ) (act : Act ω α) : Prop := act.Ordinarily ∧ ∀ x, view (act.run x).2 = view x

/-- The same as far as a view goes. -/
def SameView (view : ω → φ) (x y : ω) : Prop := view x = view y

/--
Neither the log, nor the report, nor a listener changes anything of a view; their calls return or raise
whatever they like.
-/
structure Surroundings.TellsApart (s : Surroundings ω) (view : ω → φ) : Prop where
  log : ∀ level message x, view (s.log level message x) = view x
  report : ∀ tell, s.report = some tell → ∀ call, (tell call).Unseen view
  listeners : ∀ l ∈ s.listeners, ∀ news, (l.tell news).Unseen view

namespace Surroundings.TellsApart

variable {s t : Surroundings ω} {view : ω → φ} {R : ω → ω → Prop}

theorem aside (h : s.TellsApart view) (op : SharedOp) (aside : op.IsAside) (w : World ω) :
    op.AsideReply ((s.handle op).run w).1 ∧ ((s.handle op).run w).2.sessions = w.sessions ∧
      view ((s.handle op).run w).2.outer = view w.outer := by
  cases op with
  | log level message => exact ⟨rfl, rfl, h.log level message w.outer⟩
  | report call =>
    have handled : s.handle (.report call) = s.tellReport call := rfl
    rw [handled, Surroundings.tellReport]
    cases hr : s.report with
    | none => exact ⟨ordinary_ok none, rfl, rfl⟩
    | some tell => exact ⟨(h.report tell hr call).1 w.outer, rfl, (h.report tell hr call).2 w.outer⟩
  | inform n news =>
    have handled : s.handle (.inform n news) = s.inform n news := rfl
    rw [handled, Surroundings.inform]
    cases hl : s.listeners[n]? with
    | none => exact ⟨ordinary_ok (), rfl, rfl⟩
    | some l =>
      have told := h.listeners l (List.mem_of_getElem? hl) news
      exact ⟨told.1 w.outer, rfl, told.2 w.outer⟩
  | _ => cases aside

/-- Where related states may be exchanged for others of the same view, telling is indifferent. -/
theorem indifferent (hs : s.TellsApart view) (ht : t.TellsApart view)
    (left : ∀ x x' y, view x' = view x → R x y → R x' y) (right : ∀ x y y', view y' = view y → R x y → R x y') :
    s.Indifferent R t where
  left op aside w w' related := by
    obtain ⟨replied, sessions, seen⟩ := hs.aside op aside w
    exact ⟨replied, sessions.trans related.1, left _ _ _ seen related.2⟩
  right op aside w w' related := by
    obtain ⟨replied, sessions, seen⟩ := ht.aside op aside w'
    exact ⟨replied, related.1.trans sessions.symm, right _ _ _ seen related.2⟩

theorem quiet (h : s.TellsApart view) : s.quiet.TellsApart view where
  log := h.log
  report _ h := by cases h
  listeners _ h := by cases h

end Surroundings.TellsApart

/-! ## Taped runs with and without reporting -/

namespace Taped

/-- What a view shows, and the calls that were made. -/
def view (view : ω → φ) (x : Taped ω) : φ × List OutwardCall := (view x.outer, x.calls)

/-- The same view, after related calls. -/
def Like (view : ω → φ) (E : OutwardCall → OutwardCall → Prop) (x y : Taped ω) : Prop :=
  SameView view x.outer y.outer ∧ List.Forall₂ E x.calls y.calls

section

variable {view : ω → φ} {E : OutwardCall → OutwardCall → Prop} {call call' : OutwardCall} {act act' : Act ω α}

theorem Like.note {x y : Taped ω} (h : Like view E x y) (related : E call call') :
    List.Forall₂ E (x.calls ++ [call]) (y.calls ++ [call']) := List.rel_append h.2 (.cons related .nil)

theorem agree_lift (h : Act.Agree (SameView view) act act') : Act.Agree (Like view E) (lift act) (lift act') := by
  intro x y like
  obtain ⟨outcome, seen⟩ := h x.outer y.outer like.1
  exact ⟨outcome, seen, like.2⟩

theorem agree_noting (related : E call call) (h : Act.Agree (SameView view) act act') :
    Act.Agree (Like view E) (noting call act) (noting call act') := by
  intro x y like
  obtain ⟨outcome, seen⟩ := h x.outer y.outer like.1
  exact ⟨outcome, seen, like.note related⟩

theorem agreeUpTo_noting {V : α → α → Prop} (related : E call call') (h : Act.AgreeUpTo (SameView view) V act act') :
    Act.AgreeUpTo (Like view E) V (noting call act) (noting call' act') := by
  intro x y like
  obtain ⟨matched, seen⟩ := h x.outer y.outer like.1
  exact ⟨matched, seen, like.note related⟩

theorem unseen_lift (h : act.Unseen view) : (lift act).Unseen (Taped.view view) :=
  ⟨fun x => h.1 x.outer, fun x => Prod.ext (h.2 x.outer) rfl⟩

end

end Taped

namespace Surroundings

section

variable {s t : Surroundings ω} {view : ω → φ} {E : OutwardCall → OutwardCall → Prop}

theorem AgreeUntimed.taped (h : s.AgreeUntimed (SameView view) t) (refl : ∀ call, E call call) :
    s.taped.AgreeUntimed (Taped.Like view E) t.taped where
  log level message _ _ like := ⟨h.log level message _ _ like.1, like.2⟩
  create n config := Taped.agree_noting (refl _) (h.create n config)
  browse n call := Taped.agree_noting (refl _) (h.browse n call)
  defaultConfig := h.defaultConfig
  closeFault := h.closeFault
  sleep seconds := Taped.agree_lift (h.sleep seconds)
  listActive := Taped.agree_lift h.listActive
  loadInput testId := Taped.agree_lift (h.loadInput testId)
  loadKeywords testId := Taped.agree_lift (h.loadKeywords testId)
  outside action arguments := Taped.agree_lift (h.outside action arguments)

theorem Agree.taped (h : s.Agree (SameView view) t) : s.taped.Agree (Taped.Like view Eq) t.taped where
  toAgreeUntimed := h.toAgreeUntimed.taped fun _ => rfl
  now _ _ like := h.now _ _ like.1
  localNow _ _ like := h.localNow _ _ like.1
  stopwatch _ _ like := h.stopwatch _ _ like.1
  capture := by
    have device := h.capture
    unfold Surroundings.taped
    dsimp only
    generalize s.capture = c, t.capture = c' at device
    cases device with
    | absent => exact .absent
    | screenshots directory => exact .screenshots directory
    | other demanded failed =>
      exact .other (fun label unit => Taped.agree_noting rfl (demanded label unit))
        fun testId testName reason unit => Taped.agree_noting rfl (failed testId testName reason unit)

theorem AgreeUnstamped.taped (h : s.AgreeUnstamped (SameView view) t) :
    s.taped.AgreeUnstamped (Taped.Like view OutwardCall.Alike) t.taped where
  toAgreeUntimed := h.toAgreeUntimed.taped .same
  capture := by
    have device := h.capture
    unfold Surroundings.taped
    dsimp only
    generalize s.capture = c, t.capture = c' at device
    cases device with
    | absent => exact .absent
    | screenshots directory => exact .screenshots directory
    | other demanded failed =>
      exact .other (fun label unit => Taped.agreeUpTo_noting (.same _) (demanded label unit))
        fun testId testName reason reason' unit alike => Taped.agreeUpTo_noting (.failure testId testName unit alike)
          (failed testId testName reason reason' unit alike)
  shots n directory label time time' _ _ like := by
    obtain ⟨saves, seen⟩ := h.shots n directory label time time' _ _ like.1
    exact ⟨saves, seen, like.note (.shot n directory label time time')⟩

theorem TellsApart.taped (h : s.TellsApart view) : s.taped.TellsApart (Taped.view view) where
  log level message x := Prod.ext (h.log level message x.outer) rfl
  report tell told call := by
    obtain ⟨tell, device, rfl⟩ := Option.map_eq_some_iff.1 told
    exact Taped.unseen_lift (h.report tell device call)
  listeners l member news := by
    obtain ⟨l, held, rfl⟩ := List.mem_map.1 member
    exact Taped.unseen_lift (h.listeners l held news)

theorem TellsApart.indifferent_taped (hs : s.TellsApart view) (ht : t.TellsApart view) :
    s.taped.Indifferent (Taped.Like view E) t.taped := by
  refine hs.taped.indifferent ht.taped (fun _ _ _ same like => ?_) fun _ _ _ same like => ?_
  · obtain ⟨seen, calls⟩ := Prod.mk.inj same
    exact ⟨seen.trans like.1, calls ▸ like.2⟩
  · obtain ⟨seen, calls⟩ := Prod.mk.inj same
    exact ⟨like.1.trans seen.symm, calls ▸ like.2⟩

theorem orderly_taped (h : s.Orderly) : s.taped.Orderly := s.taped_agrees.orderly (fun x => ⟨x.outer, rfl⟩) h

variable {κ : Type} {K : Kinship κ} {met : κ → World (Taped ω) → World (Taped ω) → Prop} {plan plan' : SuitePlan}

theorem Beside.sameCourse (h : s.taped.Beside K (Taped.Like view E) met t.taped) (plans : plan.Akin K plan')
    (sameWorkers : plan.workers = plan'.workers) (w : World ω) :
    SameCourse K.results K.times E s plan t plan' w := by
  intro schedule
  have start : World.Related (Taped.Like view E) ⟨w.sessions, ⟨w.outer, []⟩⟩ ⟨w.sessions, ⟨w.outer, []⟩⟩ :=
    ⟨rfl, rfl, .nil⟩
  obtain ⟨schedule', few, summary, related⟩ := h.runSuite plans sameWorkers schedule start
  refine ⟨schedule', few, ?_, related.2.2⟩
  rw [runSuite_taped s, runSuite_taped t]
  exact summary

/-! ## A suite that reports, and the same suite that does not -/

variable (hs : s.TellsApart view) (ht : t.TellsApart view) (same : plan.SameWork plan') (w : World ω)
include hs ht same

theorem TellsApart.exactCourse (agrees : s.Agree (SameView view) t) (hk : plan.registry.Heedless) :
    ExactCourse s plan t plan' w :=
  (agrees.taped.echoing (hs.indifferent_taped ht)).sameCourse (same.echoing hk) same.workers w

theorem TellsApart.alikeCourse (agrees : s.AgreeUnstamped (SameView view) t) (os : s.Orderly) (ot : t.Orderly)
    (hk : plan.registry.Isolated) : AlikeCourse s plan t plan' w :=
  (agrees.taped.paced (hs.indifferent_taped ht) (orderly_taped os) (orderly_taped ot)).sameCourse (same.paced hk)
    same.workers w

end

end Surroundings

/--
A suite of keywords that drive the browser, whose report and listeners return or raise whatever they like and
change nothing of a view that everything else depends on, comes to what it comes to without them: the same
summary with the same results, after the same calls that create sessions, act on them and capture views, in the
same order. If the clocks do not depend on the view, for telling may take time, this is so but for times and
what is stamped with them. On several workers each schedule of the one has a schedule of the other with which
it does.
-/
theorem reporting_changes_nothing {s : Surroundings ω} {view : ω → φ} (hs : s.TellsApart view) {plan : SuitePlan}
    (hk : ∀ name e, plan.registry.resolve? name = some e → BrowserKeyword.IsBuiltIn e.body) (w : World ω) :
    (s.Agree (SameView view) s →
      Surroundings.ExactCourse s plan s.quiet plan.quiet w ∧ Surroundings.ExactCourse s.quiet plan.quiet s plan w) ∧
    (s.Orderly → s.AgreeUnstamped (SameView view) s →
      Surroundings.AlikeCourse s plan s.quiet plan.quiet w ∧ Surroundings.AlikeCourse s.quiet plan.quiet s plan w) := by
  have less := plan.sameWork_quiet
  have more := plan.quiet_sameWork
  refine ⟨fun agrees => ?_, fun ho agrees => ?_⟩
  · have heedless : plan.registry.Heedless := fun name e found => BrowserKeyword.heedless_of_isBuiltIn (hk name e found)
    have without : s.Agree (SameView view) s.quiet := { agrees with }
    have within : s.quiet.Agree (SameView view) s := { agrees with }
    exact ⟨hs.exactCourse hs.quiet less w without heedless, hs.quiet.exactCourse hs more w within heedless⟩
  · have isolated : plan.registry.Isolated := fun name e found => BrowserKeyword.isolated_of_isBuiltIn (hk name e found)
    have without : s.AgreeUnstamped (SameView view) s.quiet := { agrees with }
    have within : s.quiet.AgreeUnstamped (SameView view) s := { agrees with }
    have ho' := Surroundings.orderly_quiet ho
    exact ⟨hs.alikeCourse hs.quiet less w without ho ho' isolated,
      hs.quiet.alikeCourse hs more w within ho' ho isolated⟩

/-! ## A report that is out of order every other time -/

/-- How many calls were made on sessions, and how much was told and logged. -/
structure Studio where
  ticks : Nat
  told : Nat
  logged : Nat

namespace Studio

/-- The time on a clock that goes on whatever is done. -/
def elapsed (x : Studio) : Nat := x.ticks + x.told + x.logged

def tick : Act Studio Unit := modify fun x => { x with ticks := x.ticks + 1 }

def answer (value : α) : Act Studio α :=
  Act.make fun x =>
    (if x.told % 2 = 0 then .error (.plain .runtime "disk full") else .ok value, { x with told := x.told + 1 })

/-- A device that always saves a view under the same name, and never one of a failure. -/
def camera : CaptureDevice Studio :=
  .other (fun _ _ => return some "view.png") fun _ _ _ _ => throw (.plain .runtime "no display")

theorem unseen_answer (value : α) : (answer value).Unseen Studio.ticks := by
  refine ⟨fun x fault failed => ?_, fun _ => rfl⟩
  have outcome : ((answer value).run x).1 = if x.told % 2 = 0 then .error (.plain .runtime "disk full") else .ok value :=
    rfl
  rw [outcome] at failed
  split at failed
  · cases failed
    rfl
  · cases failed

end Studio

/-- Two test cases that visit a page; the second then clicks on something that is not there. -/
def Surroundings.studio (clock : Studio → Nat) (capture : CaptureDevice Studio) : Surroundings Studio where
  log _ _ x := { x with logged := x.logged + 1 }
  create _ _ := Studio.tick
  browse _
    | .title => do
      Studio.tick
      return "TC1"
    | .isEnabled _ | .isChecked _ => return true
    | .click _ => throw (.plain .runtime "no such element")
    | .navigate _ | .fill .. | .waitForState .. | .saveScreenshot _ | .quit => Studio.tick
  defaultConfig := {}
  now x := { (default : Timestamp) with time := ⟨0, 0, 0, clock x⟩ }
  localNow x := { (default : Timestamp) with time := ⟨0, 0, 0, clock x⟩ }
  stopwatch _ := 0.0
  sleep _ := Studio.tick
  source := ⟨return [{ testId := "TC1", testName := "First" }, { testId := "TC2", testName := "Second" }],
    fun testId => return [("URL", .text testId), ("Title", .text testId), ("Element", .text "#go")],
    fun testId => return [.text "open_browser", .text "navigate_to"] ++
      if testId = "TC2" then [.text "click"] else [.text "verify_title"]⟩
  report := some fun _ => Studio.answer (some "report.html")
  capture := capture
  listeners := [⟨"Mail", fun _ => Studio.answer ()⟩]
  outside _ _ := throw (.plain .runtime "nothing outside")

namespace Surroundings

variable {clock : Studio → Nat} {capture : CaptureDevice Studio}

theorem tellsApart_studio : (studio clock capture).TellsApart Studio.ticks where
  log _ _ _ := rfl
  report _ h call := by
    cases h
    exact Studio.unseen_answer _
  listeners l h news := by
    obtain rfl := List.mem_singleton.1 h
    exact Studio.unseen_answer _

theorem agreeUntimed_studio : (studio clock capture).AgreeUntimed (SameView Studio.ticks) (studio clock capture) where
  log _ _ _ _ same := same
  create _ _ _ _ same := ⟨rfl, congrArg (· + 1) same⟩
  browse _ call x y same := by
    cases call with
    | click | isEnabled | isChecked => exact ⟨rfl, same⟩
    | _ => exact ⟨rfl, congrArg (· + 1) same⟩
  defaultConfig := rfl
  closeFault := rfl
  sleep _ _ _ same := ⟨rfl, congrArg (· + 1) same⟩
  listActive := Act.agree_pure _
  loadInput _ := Act.agree_pure _
  loadKeywords _ := Act.agree_pure _
  outside _ _ := Act.agree_throw _

theorem agree_studio : (studio Studio.ticks Studio.camera).Agree (SameView Studio.ticks)
    (studio Studio.ticks Studio.camera) where
  toAgreeUntimed := agreeUntimed_studio
  now x y same := congrArg (fun n => { (default : Timestamp) with time := ⟨0, 0, 0, n⟩ }) (show x.ticks = y.ticks from same)
  localNow x y same :=
    congrArg (fun n => { (default : Timestamp) with time := ⟨0, 0, 0, n⟩ }) (show x.ticks = y.ticks from same)
  stopwatch _ _ _ := rfl
  capture := .other (fun _ _ => Act.agree_pure _) fun _ _ _ _ => Act.agree_throw _

theorem agreeUnstamped_studio (directory : FilePath) : (studio clock (.screenshots directory)).AgreeUnstamped
    (SameView Studio.ticks) (studio clock (.screenshots directory)) where
  toAgreeUntimed := agreeUntimed_studio
  capture := .screenshots directory
  shots _ _ _ _ _ _ _ same := ⟨rfl, congrArg (· + 1) same⟩

theorem orderly_studio (directory : FilePath) : (studio clock (.screenshots directory)).Orderly where
  create _ _ _ := ordinary_ok ()
  browse _ call x := by
    cases call with
    | click => exact Act.ordinarily_throw rfl x
    | _ => exact ordinary_ok _
  sleep _ _ := ordinary_ok ()
  loadInput _ _ := ordinary_ok _
  loadKeywords _ _ := ordinary_ok _
  report _ told call := by
    cases told
    exact (Studio.unseen_answer _).1
  capture _ _ other := by cases other
  listeners l member news := by
    obtain rfl := List.mem_singleton.1 member
    exact (Studio.unseen_answer _).1
  outside _ _ := Act.ordinarily_throw rfl
  closes := rfl
  steady _ _ _ := by
    show (0.0 : Float) ≤ 0.0 - 0.0
    decide

end Surroundings

theorem KeywordRegistry.isBuiltIn_browsing {name : Option String} {e : KeywordEntry}
    (h : browsing.resolve? name = some e) : BrowserKeyword.IsBuiltIn e.body := by
  obtain ⟨key, he⟩ := mem_of_resolve? h
  obtain ⟨d, declared, filed⟩ := List.mem_filterMap.1 he
  obtain ⟨body, hasBody, entry⟩ := Option.map_eq_some_iff.1 filed
  obtain ⟨-, rfl⟩ := Prod.mk.inj entry
  exact ⟨default, d, declared, hasBody⟩

theorem reporting_changes_nothing_studio :
    let plan : SuitePlan := ⟨.browsing, [], ["Mail"], 2⟩
    let turns := (List.replicate 60 [0, 1]).flatten
    let start : World Studio := ⟨.empty, ⟨0, 0, 0⟩⟩
    let config := (default : Settings).sessionConfig
    let timely := Surroundings.studio Studio.ticks Studio.camera
    let late := Surroundings.studio Studio.elapsed (.screenshots (.ofText "shots"))
    ((timely.runSuite plan turns start).2.outer.told = 30 ∧
      ∃ turns', (timely.runSuite plan turns start).1.summary =
          (timely.quiet.runSuite plan.quiet turns' start).1.summary ∧
        timely.quiet.callsOf plan.quiet turns' start = [.created 1 config, .created 2 config,
          .called 1 (.navigate "TC1"), .captured "Navigate_To_TC1" (.worker 0),
          .called 2 (.navigate "TC2"), .captured "Navigate_To_TC2" (.worker 1),
          .called 1 .title, .called 2 (.click "#go"), .called 1 .quit,
          .failureCaptured "TC2" "Second" (some "Failed to click element #go: no such element") (.worker 1),
          .called 2 .quit]) ∧
    late.callsOf plan turns start = [.created 1 config, .created 2 config,
      .called 1 (.navigate "TC1"), .called 1 (.saveScreenshot "shots/Navigate_To_TC1_00000_000000_000046.png"),
      .called 2 (.navigate "TC2"), .called 2 (.saveScreenshot "shots/Navigate_To_TC2_00000_000000_000054.png"),
      .called 1 .title, .called 2 (.click "#go"), .called 1 .quit,
      .called 2 (.saveScreenshot "shots/FAILURE_TC2_Second_00000_000000_000090.png"), .called 2 .quit] ∧
    ∃ turns', Agreed (SuiteSummary.Rel CaseResult.Alike fun _ _ => True) (late.runSuite plan turns start).1.summary
        (late.quiet.runSuite plan.quiet turns' start).1.summary ∧
      List.Forall₂ OutwardCall.Alike (late.callsOf plan turns start)
        (late.quiet.callsOf plan.quiet turns' start) := by
  intro plan turns start config timely late
  have builtIn : ∀ name e, plan.registry.resolve? name = some e → BrowserKeyword.IsBuiltIn e.body :=
    fun _ _ => KeywordRegistry.isBuiltIn_browsing
  refine ⟨?_, by decide +kernel, ?_⟩
  · obtain ⟨same, -⟩ := reporting_changes_nothing (s := timely) Surroundings.tellsApart_studio builtIn start
    obtain ⟨turns', summary, calls⟩ := (same Surroundings.agree_studio).1.equal turns
    refine ⟨by decide +kernel, turns', summary, calls.symm.trans ?_⟩
    decide +kernel
  · obtain ⟨-, alike⟩ := reporting_changes_nothing (s := late) Surroundings.tellsApart_studio builtIn start
    obtain ⟨turns', -, summary, calls⟩ :=
      (alike (Surroundings.orderly_studio _) (Surroundings.agreeUnstamped_studio _)).1 turns
    exact ⟨turns', summary, calls⟩

end KeywordSuite
