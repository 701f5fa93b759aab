import KeywordSuite.Proofs.Keyword.Lookups

/-!
# The verdict of a context

A context that keeps whether it passed, the reported reason and all reasons in three places of their own: only a failure
writes to them, and after any operations the three tell the same. Operation by operation it answers as the context
that reads the first two off the reasons.
-/

namespace KeywordSuite

/-! ## Operations on a context -/

/-- All that is done with a context from outside: what changes it, and what is read of it. -/
inductive ContextOp
  | fail (reason : String)
  | addInput (key : String) (value : Value)
  | setInput (data : Entries Value)
  | put (key : String) (value : Value)
  | attach (session : Option SessionId)
  | cleanUp
  | identity
  | passed
  | failureReason
  | failureHistory
  | input (key : String)
  | inputText (key : String)
  | allInput
  | scratch (key : String) (default : Value)
  | scratchText (key : String)
  | has (key : String)
  | allScratch
  | attached
  | display

namespace ContextOp

abbrev Reply : ContextOp → Type
  | .identity => CaseIdentity
  | .passed | .has _ => Bool
  | .failureReason | .inputText _ | .scratchText _ => Option String
  | .failureHistory => List String
  | .input _ => Option Value
  | .scratch .. => Value
  | .allInput | .allScratch => Entries Value
  | .attached => Option SessionId
  | .display => String
  | .fail _ | .addInput .. | .setInput _ | .put .. | .attach _ | .cleanUp => Unit

/-- The reason an operation fails the test case with. -/
def reason? : ContextOp → Option String
  | .fail reason => some reason
  | _ => none

def serve : (op : ContextOp) → ContextProcedure op.Reply
  | .fail reason => ContextProcedure.fail reason
  | .addInput key value => modify fun c => c.addInput key value
  | .setInput data => modify fun c => c.setInput data
  | .put key value => modify fun c => c.put key value
  | .attach session => modify fun c => c.attach session
  | .cleanUp => ContextProcedure.cleanUp
  | .identity => return (← get).identity
  | .passed => return (← get).passed
  | .failureReason => return (← get).failureReason
  | .failureHistory => return (← get).failures
  | .input key => return (← get).input.get? key
  | .inputText key => do MonadExcept.ofExcept (Context.textOf (← get).input key)
  | .allInput => return (← get).input
  | .scratch key default => return ((← get).scratch.get? key).getD default
  | .scratchText key => do MonadExcept.ofExcept (Context.textOf (← get).scratch key)
  | .has key => return (← get).scratch.has key
  | .allScratch => return (← get).scratch
  | .attached => return (← get).session
  | .display => return (← get).display

end ContextOp

/-! ## The dossier -/

/-- A context with its verdict in three places: whether it passed, the reported reason, and the reasons of all failures. -/
structure Dossier where
  identity : CaseIdentity
  hasRegistry : Bool
  input : Entries Value
  scratch : Entries Value
  passed : Bool
  failureReason : Option String
  failureHistory : List String
  session : Option SessionId
  cleanedUp : Bool

/-- Changes a dossier beside doing shared operations. -/
abbrev DossierProcedure (α : Type) := ExceptT Fault (StateT Dossier (Program SharedOp.Reply)) α

namespace Dossier

def new (identity : CaseIdentity) (hasRegistry : Bool) : Dossier :=
  ⟨identity, hasRegistry, [], [], true, none, [], none, false⟩

def display (d : Dossier) : String :=
  "ExecutionContext(test_id=" ++ Text.quoted d.identity.testId
    ++ ", passed=" ++ (if d.passed then "True" else "False")
    ++ ", failure_reason=" ++ Context.reasonDisplay d.failureReason ++ ")"

/-- What a context comes to with its verdict in three places. -/
def of (c : Context) : Dossier where
  identity := c.identity
  hasRegistry := c.hasRegistry
  input := c.input
  scratch := c.scratch
  passed := c.passed
  failureReason := c.failureReason
  failureHistory := c.failures
  session := c.session
  cleanedUp := c.cleanedUp

end Dossier

namespace DossierProcedure

variable {α : Type}

def perform (op : SharedOp) : DossierProcedure op.Reply := ExceptT.mk fun d => do
  return (← Program.request op, d)

def attempt (p : DossierProcedure α) : DossierProcedure (Except Fault α) := ExceptT.mk fun d => do
  let (r, d) ← StateT.run (ExceptT.run p) d
  return (settled r, d)

/-- The first reason is kept as the reported one, every reason in the history. -/
def fail (reason : String) : DossierProcedure Unit := do
  modify fun d => { d with passed := false }
  modify fun d => { d with failureHistory := d.failureHistory ++ [reason] }
  if (← get).failureReason = none then
    modify fun d => { d with failureReason := some reason }
  perform (.log .error ("Test failed: " ++ reason))

def cleanUp : DossierProcedure Unit := do
  let d ← get
  set { d with cleanedUp := true, session := none }
  if let some session := d.session then
    if !d.cleanedUp && d.hasRegistry then
      let closing : DossierProcedure Unit := do
        if ← perform (.isCurrent session d.identity.unit) then
          perform (.closeSession d.identity.unit)
      if let .error fault ← closing.attempt then
        perform (.log .error ("Error closing browser during cleanup: " ++ fault.message))
  modify fun d => { d with scratch := [] }

end DossierProcedure

def ContextOp.keep : (op : ContextOp) → DossierProcedure op.Reply
  | .fail reason => DossierProcedure.fail reason
  | .addInput key value => modify fun d => { d with input := d.input.set key value }
  | .setInput data => modify fun d => { d with input := d.input.setAll data }
  | .put key value => modify fun d => { d with scratch := d.scratch.set key value }
  | .attach session => modify fun d => { d with session }
  | .cleanUp => DossierProcedure.cleanUp
  | .identity => return (← get).identity
  | .passed => return (← get).passed
  | .failureReason => return (← get).failureReason
  | .failureHistory => return (← get).failureHistory
  | .input key => return (← get).input.get? key
  | .inputText key => do MonadExcept.ofExcept (Context.textOf (← get).input key)
  | .allInput => return (← get).input
  | .scratch key default => return ((← get).scratch.get? key).getD default
  | .scratchText key => do MonadExcept.ofExcept (Context.textOf (← get).scratch key)
  | .has key => return (← get).scratch.has key
  | .allScratch => return (← get).scratch
  | .attached => return (← get).session
  | .display => return (← get).display

/-! ## A dossier does what its context does -/

abbrev heardAlike : (op : SharedOp) → op.Reply → op.Reply := fun _ => id

/-- A procedure of a context and one of its dossier keep step, and leave a context and its dossier. -/
abbrev Mirrors {α : Type} (p : ContextProcedure α) (q : DossierProcedure α) : Prop :=
  StepsIn heardAlike (fun c d => d = Dossier.of c) p q

theorem mirrors_perform (op : SharedOp) : Mirrors (.perform op) (.perform op) := by
  rintro c _ rfl
  refine .both (.same op) ?_
  rintro reply _ ⟨⟩ rfl
  refine .done ⟨?_, rfl⟩
  cases reply <;> rfl

theorem Mirrors.attempt {α : Type} {p : ContextProcedure α} {q : DossierProcedure α} (step : Mirrors p q) :
    Mirrors p.attempt q.attempt := by
  rintro c _ rfl
  refine Coupled.bind (step c _ rfl) ?_
  rintro _ ⟨r, _⟩ ⟨_, _⟩ ⟨rfl, rfl⟩
  cases r <;> exact .done ⟨rfl, rfl⟩

theorem mirrors_ofExcept {α : Type} (e : Except Fault α) :
    Mirrors (MonadExcept.ofExcept e : ContextProcedure α) (MonadExcept.ofExcept e) := by
  cases e with
  | ok a => exact steps_pure a
  | error fault => exact steps_throw fault

theorem mirrors_read {α : Type} {read : Context → α} {read' : Dossier → α} (same : ∀ c, read' (.of c) = read c) :
    Mirrors (do return read (← get)) (do return read' (← get)) := by
  refine steps_get ?_
  rintro c _ rfl
  rw [same]
  exact steps_pure _

/-- What a failure writes: the reported reason only where there is none yet. -/
def Dossier.marked (d : Dossier) (reason : String) : Dossier :=
  { d with
    passed := false
    failureReason := d.failureReason.or (some reason)
    failureHistory := d.failureHistory ++ [reason] }

theorem DossierProcedure.fail_eq (reason : String) :
    DossierProcedure.fail reason = (do
      modify fun d => d.marked reason
      perform (.log .error ("Test failed: " ++ reason))) := by
  funext d
  obtain ⟨id, registered, input, scratch, passed, first, history, session, cleaned⟩ := d
  cases first <;> rfl

theorem Dossier.of_fail (c : Context) (reason : String) : Dossier.of (c.fail reason) = (Dossier.of c).marked reason := by
  have passed : (c.failures ++ [reason]).isEmpty = false := by simp
  have first : (c.failures ++ [reason]).head? = c.failures.head?.or (some reason) := List.head?_append
  unfold Dossier.of Dossier.marked Context.passed Context.failureReason Context.fail
  rw [passed, first]

theorem mirrors_fail (reason : String) : Mirrors (.fail reason) (.fail reason) := by
  rw [DossierProcedure.fail_eq]
  refine (steps_modify ?_).bind fun _ => mirrors_perform _
  rintro c _ rfl
  exact (Dossier.of_fail c reason).symm

theorem mirrors_cleanUp : Mirrors .cleanUp .cleanUp := by
  have clears : Mirrors (modify fun c => { c with scratch := [] } : ContextProcedure Unit)
      (modify fun d => { d with scratch := [] }) := by
    refine steps_modify ?_
    rintro c _ rfl
    rfl
  unfold ContextProcedure.cleanUp DossierProcedure.cleanUp
  refine steps_get ?_
  intro c d same
  have session : d.session = c.session := congrArg Dossier.session same
  have cleanedUp : d.cleanedUp = c.cleanedUp := congrArg Dossier.cleanedUp same
  have registered : d.hasRegistry = c.hasRegistry := congrArg Dossier.hasRegistry same
  have identity : d.identity = c.identity := congrArg Dossier.identity same
  have released : Mirrors (set { c with cleanedUp := true, session := none } : ContextProcedure PUnit)
      (set { d with cleanedUp := true, session := none }) := steps_set (by rw [same]; rfl)
  refine released.bind fun _ => ?_
  rw [session, cleanedUp, registered, identity]
  -- both sides now read the same, and go the same way
  cases c.session with
  | none => exact clears
  | some session =>
    dsimp only
    by_cases first : (!c.cleanedUp && c.hasRegistry) = true
    · rw [if_pos first, if_pos first]
      have closing : Mirrors (do
            if ← ContextProcedure.perform (.isCurrent session c.identity.unit) then
              ContextProcedure.perform (.closeSession c.identity.unit) : ContextProcedure Unit) (do
            if ← DossierProcedure.perform (.isCurrent session c.identity.unit) then
              DossierProcedure.perform (.closeSession c.identity.unit)) := by
        refine (mirrors_perform (.isCurrent session _)).bind fun current => ?_
        cases (current : Bool) with
        | true => exact mirrors_perform (.closeSession _)
        | false => exact steps_pure _
      refine closing.attempt.bind fun closed => ?_
      cases closed with
      | ok _ => exact clears
      | error fault => exact (mirrors_perform (.log .error _)).bind fun _ => clears
    · rw [if_neg first, if_neg first]
      exact clears

/-- Operation by operation, a dossier answers as its context does. -/
theorem mirrors_serve (op : ContextOp) : Mirrors op.serve op.keep := by
  have changed : ∀ {f : Context → Context} {g : Dossier → Dossier}, (∀ c, g (.of c) = .of (f c)) →
      Mirrors (modify f : ContextProcedure Unit) (modify g) := by
    intro f g same
    refine steps_modify ?_
    rintro c _ rfl
    exact same c
  cases op with
  | fail reason => exact mirrors_fail reason
  | cleanUp => exact mirrors_cleanUp
  | addInput | setInput | put | attach => exact changed fun _ => rfl
  | inputText key | scratchText key =>
    refine steps_get ?_
    rintro c _ rfl
    exact mirrors_ofExcept _
  | _ => exact mirrors_read fun _ => rfl

/-! ## One operation after another -/

/-- Programs that keep step are answered alike by one handler. -/
theorem InStep.run {α β σ : Type} {V : α → β → Prop} {p : Program SharedOp.Reply α} {q : Program SharedOp.Reply β}
    (step : InStep heardAlike V p q) (handle : (op : SharedOp) → Act σ op.Reply) : ∀ s : σ,
      V (p.run handle s).1 (q.run handle s).1 ∧ (q.run handle s).2 = (p.run handle s).2 := by
  unfold InStep at step
  generalize () = k at step
  induction step with
  | done related => exact fun s => ⟨related, rfl⟩
  | left never => exact never.elim
  | right never => exact never.elim
  | @both _ op _ _ _ _ together _ ih =>
    cases together with
    | same =>
      intro s
      have heard : ((handle op).run s).1 = ((handle op).run s).1.map id := by
        cases ((handle op).run s).1 <;> rfl
      exact ih _ _ () heard _

namespace ContextOp

section

variable {σ τ : Type} (how : (op : ContextOp) → ExceptT Fault (StateT τ (Program SharedOp.Reply)) op.Reply)
  (handle : (op : SharedOp) → Act σ op.Reply)

def runIn (x : τ × σ) (op : ContextOp) : (Except Fault op.Reply × τ) × σ :=
  (StateT.run (ExceptT.run (how op)) x.1).run handle x.2

/-- What an operation comes to, a value or a fault; it is for whoever asked, and others may follow. -/
def answer (x : τ × σ) (op : ContextOp) : Except Fault op.Reply := (runIn how handle x op).1.1

def step (x : τ × σ) (op : ContextOp) : τ × σ := ((runIn how handle x op).1.2, (runIn how handle x op).2)

def after (x : τ × σ) (ops : List ContextOp) : τ × σ := ops.foldl (step how handle) x

end

variable {σ : Type} {handle : (op : SharedOp) → Act σ op.Reply}

theorem step_keep_of (c : Context) (s : σ) (op : ContextOp) :
    step keep handle (Dossier.of c, s) op =
      (Dossier.of (step serve handle (c, s) op).1, (step serve handle (c, s) op).2) := by
  obtain ⟨⟨-, dossier⟩, state⟩ := InStep.run (mirrors_serve op c _ rfl) handle s
  exact Prod.ext dossier state

theorem answer_keep_of (c : Context) (s : σ) (op : ContextOp) :
    answer keep handle (Dossier.of c, s) op = answer serve handle (c, s) op :=
  (InStep.run (mirrors_serve op c _ rfl) handle s).1.1.symm

theorem after_keep_of (c : Context) (s : σ) (ops : List ContextOp) :
    after keep handle (Dossier.of c, s) ops =
      (Dossier.of (after serve handle (c, s) ops).1, (after serve handle (c, s) ops).2) := by
  induction ops generalizing c s with
  | nil => rfl
  | cons op rest ih =>
    show after keep handle (step keep handle (Dossier.of c, s) op) rest = _
    rw [step_keep_of]
    exact ih _ _

end ContextOp

/-! ## The verdict -/

namespace Dossier

/-- The three places tell of the same reasons. -/
structure Tells (d : Dossier) (reasons : List String) : Prop where
  passed : d.passed = reasons.isEmpty
  failureReason : d.failureReason = reasons.head?
  failureHistory : d.failureHistory = reasons

structure SameVerdict (d d' : Dossier) : Prop where
  passed : d'.passed = d.passed
  failureReason : d'.failureReason = d.failureReason
  failureHistory : d'.failureHistory = d.failureHistory

variable {d d' : Dossier} {reasons : List String}

theorem tells_new (id : CaseIdentity) (registered : Bool) : (new id registered).Tells [] := ⟨rfl, rfl, rfl⟩

theorem Tells.same (h : d.Tells reasons) (same : d.SameVerdict d') : d'.Tells reasons :=
  ⟨same.passed.trans h.passed, same.failureReason.trans h.failureReason, same.failureHistory.trans h.failureHistory⟩

theorem Tells.marked (h : d.Tells reasons) (reason : String) : (d.marked reason).Tells (reasons ++ [reason]) where
  passed := by simp [Dossier.marked]
  failureReason := by simp [Dossier.marked, h.failureReason, List.head?_append]
  failureHistory := congrArg (· ++ [reason]) h.failureHistory

end Dossier

section

variable {σ : Type} {handle : (op : SharedOp) → Act σ op.Reply} {d : Dossier} {s : σ}

theorem meets_dossierPerform {op : SharedOp} {post : Except Fault op.Reply → Dossier → σ → Prop} :
    Meets (Program.handled handle) (DossierProcedure.perform op) d s post ↔
      post ((handle op).run s).1 d ((handle op).run s).2 :=
  Program.keeps_handled handle (StateT.run (ExceptT.run (DossierProcedure.perform op)) d) _ s

theorem meets_dossierAttempt {α : Type} {p : DossierProcedure α}
    {post : Except Fault (Except Fault α) → Dossier → σ → Prop} :
    Meets (Program.handled handle) p.attempt d s post ↔
      Meets (Program.handled handle) p d s fun r d s => post (settled r) d s :=
  Program.keeps_bind (StateT.run (ExceptT.run p) d) _ _ s

theorem meets_dossierOfExcept {α : Type} {post : Except Fault α → Dossier → σ → Prop} (e : Except Fault α) :
    Meets (Program.handled handle) (MonadExcept.ofExcept e : DossierProcedure α) d s post ↔ post e d s := by
  cases e <;> rfl

theorem meets_marked (reason : String) :
    Meets (Program.handled handle) (DossierProcedure.fail reason) d s fun _ d' _ => d' = d.marked reason := by
  rw [DossierProcedure.fail_eq, meets_bind, meets_modify]
  exact meets_dossierPerform.2 rfl

theorem meets_closing (session : SessionId) (unit : UnitId) :
    Meets (Program.handled handle) (do
      if ← DossierProcedure.perform (.isCurrent session unit) then
        DossierProcedure.perform (.closeSession unit)) d s fun _ d' _ => d' = d := by
  rw [meets_bind, meets_dossierPerform]
  cases ((handle (.isCurrent session unit)).run s).1 with
  | error fault => rfl
  | ok current =>
    cases (current : Bool) with
    | true => exact meets_dossierPerform.2 rfl
    | false => exact rfl

/-- Whatever the registry answers, and also where closing is interrupted. -/
theorem meets_cleared : Meets (Program.handled handle) DossierProcedure.cleanUp d s fun _ d' _ => d.SameVerdict d' := by
  have clears : ∀ d' s', d.SameVerdict d' → Meets (Program.handled handle)
      (modify fun d => { d with scratch := [] } : DossierProcedure Unit) d' s' fun _ d' _ => d.SameVerdict d' :=
    fun d' s' same => (meets_modify _).2 ⟨same.passed, same.failureReason, same.failureHistory⟩
  unfold DossierProcedure.cleanUp
  rw [meets_bind, meets_get]
  dsimp only
  rw [meets_bind, meets_set]
  dsimp only
  split
  · rename_i session _
    split
    · rw [meets_bind, meets_dossierAttempt]
      refine (meets_closing session d.identity.unit).mono ?_
      rintro r _ s' rfl
      cases settled r with
      | error fault => exact ⟨rfl, rfl, rfl⟩
      | ok closed =>
        cases closed with
        | ok _ => exact clears _ _ ⟨rfl, rfl, rfl⟩
        | error fault =>
          dsimp only
          rw [meets_bind, meets_dossierPerform]
          cases ((handle (.log .error _)).run s').1 with
          | ok _ => exact clears _ _ ⟨rfl, rfl, rfl⟩
          | error fault => exact ⟨rfl, rfl, rfl⟩
    · exact clears _ _ ⟨rfl, rfl, rfl⟩
  · exact clears _ _ ⟨rfl, rfl, rfl⟩

theorem meets_keep {op : ContextOp} (other : op.reason? = none) :
    Meets (Program.handled handle) op.keep d s fun _ d' _ => d.SameVerdict d' := by
  cases op with
  | fail reason => cases other
  | cleanUp => exact meets_cleared
  | inputText key | scratchText key =>
    show Meets _ (get >>= _) d s _
    rw [meets_bind, meets_get]
    exact (meets_dossierOfExcept _).2 ⟨rfl, rfl, rfl⟩
  | _ => exact ⟨rfl, rfl, rfl⟩

namespace ContextOp

theorem step_sameVerdict (x : Dossier × σ) {op : ContextOp} (other : op.reason? = none) :
    x.1.SameVerdict (step keep handle x op).1 :=
  (Program.keeps_handled handle _ _ x.2).1 (meets_keep other)

theorem tells_step {x : Dossier × σ} {reasons : List String} (h : x.1.Tells reasons) (op : ContextOp) :
    (step keep handle x op).1.Tells (reasons ++ op.reason?.toList) := by
  cases given : op.reason? with
  | none =>
    rw [Option.toList_none, List.append_nil]
    exact h.same (step_sameVerdict x given)
  | some reason =>
    cases op with
    | fail _ =>
      cases given
      have marked : (step keep handle x (.fail reason)).1 = x.1.marked reason :=
        (Program.keeps_handled handle _ _ x.2).1 (meets_marked reason)
      rw [marked]
      exact h.marked reason
    | _ => cases given

theorem tells_after : ∀ (ops : List ContextOp) {x : Dossier × σ} {reasons : List String}, x.1.Tells reasons →
    (after keep handle x ops).1.Tells (reasons ++ ops.filterMap reason?)
  | [], _, _, h => by rwa [List.filterMap_nil, List.append_nil]
  | op :: rest, x, reasons, h => by
    have first : (step keep handle x op).1.Tells (reasons ++ op.reason?.toList) := tells_step h op
    have others := tells_after rest first
    have all : (op :: rest).filterMap reason? = op.reason?.toList ++ rest.filterMap reason? := by
      cases given : op.reason? <;> simp [given]
    rw [all, ← List.append_assoc]
    exact others

/--
After any operations on a context, which may end in faults and be interrupted, it has passed exactly if none of them was
a failure, the history holds the reasons that were given, in order, and the first of them is the reported one. An
operation that is no failure changes none of the three. Whatever follows, the history only grows, and a context that has
failed stays failed for the same reason. The context whose verdict is read off its reasons shows the same three after
the same operations, and whatever is asked of it next is answered alike.
-/
theorem verdict_only_grows (handle : (op : SharedOp) → Act σ op.Reply) (id : CaseIdentity) (registered : Bool) (s : σ)
    (before later : List ContextOp) :
    let x := after keep handle (Dossier.new id registered, s) before
    let y := after keep handle x later
    let z := after serve handle (Context.new id registered, s) before
    (x.1.passed = true ↔ ∀ reason, .fail reason ∉ before) ∧
    x.1.failureHistory = before.filterMap reason? ∧ x.1.failureReason = x.1.failureHistory.head? ∧
    (∀ op, (∀ reason, op ≠ .fail reason) → x.1.SameVerdict (step keep handle x op).1) ∧
    x.1.failureHistory <+: y.1.failureHistory ∧
    (x.1.passed = false → y.1.passed = false ∧ y.1.failureReason = x.1.failureReason) ∧
    z.1.passed = x.1.passed ∧ z.1.failureReason = x.1.failureReason ∧ z.1.failures = x.1.failureHistory ∧ z.2 = x.2 ∧
    ∀ op, answer serve handle z op = answer keep handle x op := by
  intro x y z
  have told : x.1.Tells ([] ++ before.filterMap reason?) := tells_after before (Dossier.tells_new id registered)
  rw [List.nil_append] at told
  -- what comes later only adds its own reasons behind those from before
  have grown : y.1.Tells (before.filterMap reason? ++ later.filterMap reason?) := tells_after later told
  have same : x = (Dossier.of z.1, z.2) := after_keep_of (Context.new id registered) s before
  have unfailed : ∀ op : ContextOp, (∀ reason, op ≠ .fail reason) → op.reason? = none := by
    intro op other
    cases op with
    | fail reason => exact absurd rfl (other reason)
    | _ => rfl
  refine ⟨?_, told.failureHistory, ?_, fun op other => step_sameVerdict x (unfailed op other), ?_, fun failed => ?_, ?_⟩
  · rw [told.passed, List.isEmpty_iff, List.filterMap_eq_nil_iff]
    constructor
    · intro none reason held
      cases none _ held
    · exact fun never op held => unfailed op fun reason same => never reason (same ▸ held)
  · rw [told.failureReason, told.failureHistory]
  · rw [told.failureHistory, grown.failureHistory]
    exact List.prefix_append _ _
  · rw [told.passed, List.isEmpty_eq_false_iff] at failed
    obtain ⟨first, rest, reasons⟩ := List.exists_cons_of_ne_nil failed
    rw [grown.passed, grown.failureReason, told.failureReason, reasons]
    exact ⟨rfl, rfl⟩
  · rw [same]
    exact ⟨rfl, rfl, rfl, rfl, fun op => (answer_keep_of z.1 z.2 op).symm⟩

/-- A cleanup and another reason change nothing of what is reported. -/
example : (fun x : Dossier => (x.passed, x.failureReason, x.failureHistory))
    (after keep (fun _ => throw (.plain .runtime "no answer")) (Dossier.new ⟨"TC1", "First", .calling⟩ true, ())
      [.fail "first", .cleanUp, .addInput "Key" .null, .fail "second", .passed]).1 =
    (false, some "first", ["first", "second"]) := by
  rfl

end ContextOp

end

end KeywordSuite
