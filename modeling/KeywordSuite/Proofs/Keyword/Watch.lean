import KeywordSuite.Proofs.Keyword.Isolation

/-!
# Watching for interruptions

What becomes of a procedure whose operations may fail or be interrupted by the user: it is interrupted
exactly if one of its operations is. The keywords that drive the browser do not keep an interruption to
themselves.
-/

namespace KeywordSuite

/-! ## The protocol -/

/-- What was read off the stopwatch, and whether an operation was interrupted. -/
structure Watch where
  readings : List Float
  interrupted : Bool

/-- Operations that the user may interrupt: driving a session, waiting, and what the library does not know. -/
def SharedOp.isInterruptible : SharedOp → Bool
  | .openSession .. | .browse .. | .captureOnDemand .. | .captureOnFailure .. | .sleep _ | .outside .. => true
  | _ => false

def SharedOp.reads? : (op : SharedOp) → Except Fault op.Reply → Option Float
  | .stopwatch, .ok t => some t
  | _, _ => none

/-- An outcome that is an interruption by the user. -/
def isBroken {α : Type} : Except Fault α → Bool
  | .ok _ => false
  | .error fault => fault.isInterrupt

/-- A number of seconds that lasts: it is not below zero, and finite. -/
def IsSpan (seconds : Float) : Prop :=
  0.0 ≤ seconds ∧ ∃ negative size, DoubleClass.ofFloat seconds = .finite negative size

/-- The protocol of surroundings whose stopwatch never goes back; a stage is what happened so far. -/
def watching : Protocol SharedOp.Reply Watch where
  begins g _ h := h = g
  answers g op reply :=
    (op.neverFails = true → ∃ a, reply = .ok a) ∧ (op.isInterruptible = false → Ordinary reply) ∧
      ∀ t, op.reads? reply = some t → ∀ t₀ ∈ g.readings, IsSpan (t - t₀)
  next g op reply := ⟨(op.reads? reply).toList ++ g.readings, g.interrupted || isBroken reply⟩

theorem ordinary_iff {α : Type} {r : Except Fault α} : Ordinary r ↔ isBroken r = false := by
  cases r with
  | ok a => exact ⟨fun _ => rfl, fun _ => ordinary_ok a⟩
  | error fault => exact ⟨fun h => h fault rfl, fun h => faulty_error h⟩

/-- How a procedure ended, and whether an operation was interrupted before it or on the way. -/
inductive EndsIn {α : Type} (fails : Prop) (R : α → Prop) (before : Bool) : Except Fault α → Bool → Prop
  | ok {a : α} : R a → EndsIn fails R before (.ok a) before
  | failed {fault : Fault} : fails → fault.isInterrupt = false → EndsIn fails R before (.error fault) before
  | interrupted {fault : Fault} : fault.isInterrupt = true → EndsIn fails R before (.error fault) true

theorem EndsIn.mono {α : Type} {fails fails' : Prop} {R R' : α → Prop} {before after : Bool} {r : Except Fault α}
    (h : EndsIn fails R before r after) (may : fails → fails') (weaker : ∀ a, R a → R' a) :
    EndsIn fails' R' before r after := by
  cases h with
  | ok value => exact .ok (weaker _ value)
  | failed may' ordinary => exact .failed (may may') ordinary
  | interrupted broken => exact .interrupted broken

section

variable {σ α β : Type}

/--
Whatever was read before, the procedure comes to a value, or fails where it may, or is interrupted, and
that exactly if one of its operations is.
-/
def Watched (fails : Prop) (R : List Float → α → Prop) (k : List Float)
    (p : ExceptT Fault (StateT σ (Program SharedOp.Reply)) α) : Prop :=
  ∀ x g, k ⊆ g.readings → Meets watching p x g fun r _ h =>
    g.readings ⊆ h.readings ∧ EndsIn fails (R h.readings) g.interrupted r h.interrupted

/-- Any value will do. -/
abbrev AnyValue (_ : List Float) (_ : α) : Prop := True

variable {fails : Prop} {R : List Float → α → Prop} {S : List Float → β → Prop} {k : List Float}
  {p : ExceptT Fault (StateT σ (Program SharedOp.Reply)) α}

/-! ## Rules -/

theorem watched_pure {a : α} (h : ∀ k₁, k ⊆ k₁ → R k₁ a) :
    Watched fails R k (pure a : ExceptT Fault (StateT σ (Program SharedOp.Reply)) α) :=
  fun _ _ later => ⟨List.Subset.refl _, .ok (h _ later)⟩

theorem watched_value (a : α) :
    Watched fails AnyValue k (pure a : ExceptT Fault (StateT σ (Program SharedOp.Reply)) α) :=
  watched_pure fun _ _ => trivial

theorem watched_throw {fault : Fault} (may : fails) (ordinary : fault.isInterrupt = false) :
    Watched fails R k (throw fault : ExceptT Fault (StateT σ (Program SharedOp.Reply)) α) :=
  fun _ _ _ => ⟨List.Subset.refl _, .failed may ordinary⟩

theorem watched_get : Watched fails AnyValue k (get : ExceptT Fault (StateT σ (Program SharedOp.Reply)) σ) :=
  fun _ _ _ => ⟨List.Subset.refl _, .ok trivial⟩

theorem watched_set (y : σ) :
    Watched fails AnyValue k (set y : ExceptT Fault (StateT σ (Program SharedOp.Reply)) PUnit) :=
  fun _ _ _ => ⟨List.Subset.refl _, .ok trivial⟩

theorem watched_modify (f : σ → σ) :
    Watched fails AnyValue k (modify f : ExceptT Fault (StateT σ (Program SharedOp.Reply)) PUnit) :=
  fun _ _ _ => ⟨List.Subset.refl _, .ok trivial⟩

theorem Watched.mono {fails' : Prop} {R' : List Float → α → Prop} (h : Watched fails R k p) (may : fails → fails')
    (weaker : ∀ k₁ a, k ⊆ k₁ → R k₁ a → R' k₁ a) : Watched fails' R' k p := by
  intro x g later
  refine (h x g later).mono fun r y g' ended => ⟨ended.1, ended.2.mono may fun a value => ?_⟩
  exact weaker _ a (List.Subset.trans later ended.1) value

theorem Watched.any (h : Watched fails R k p) : Watched fails AnyValue k p :=
  h.mono id fun _ _ _ _ => trivial

theorem Watched.never (h : Watched False R k p) : Watched fails R k p :=
  h.mono False.elim fun _ _ _ value => value

theorem Watched.bind {f : α → ExceptT Fault (StateT σ (Program SharedOp.Reply)) β} (h : Watched fails R k p)
    (rest : ∀ k₁ a, k ⊆ k₁ → R k₁ a → Watched fails S k₁ (f a)) : Watched fails S k (p >>= f) := by
  intro x g later
  rw [meets_bind]
  refine (h x g later).mono fun r y g₁ ended => ?_
  obtain ⟨grown, ended⟩ := ended
  generalize hb : g₁.interrupted = b at ended
  cases ended with
  | ok value =>
    refine (rest g₁.readings _ (List.Subset.trans later grown) value y g₁ (List.Subset.refl _)).mono ?_
    intro r' y' g₂ ended
    rw [hb] at ended
    exact ⟨List.Subset.trans grown ended.1, ended.2⟩
  | failed may ordinary => exact ⟨grown, .failed may ordinary⟩
  | interrupted broken => exact ⟨grown, .interrupted broken⟩

/-- What is read off the stopwatch is told apart from all that was read before. -/
def SharedOp.Answered (op : SharedOp) (before after : List Float) (a : op.Reply) : Prop :=
  ∀ t, op.reads? (.ok a) = some t → t ∈ after ∧ ∀ t₀ ∈ before, IsSpan (t - t₀)

theorem endsIn_reply {op : SharedOp} {g : Watch} {reply : Except Fault op.Reply}
    (answered : watching.answers g op reply) :
    g.readings ⊆ (watching.next g op reply).readings ∧
      EndsIn (op.neverFails = false) (op.Answered g.readings (watching.next g op reply).readings) g.interrupted
        reply (watching.next g op reply).interrupted := by
  obtain ⟨works, -, spans⟩ := answered
  refine ⟨List.subset_append_right _ _, ?_⟩
  cases reply with
  | ok a =>
    have still : (watching.next g op (.ok a)).interrupted = g.interrupted := Bool.or_false _
    rw [still]
    refine .ok fun t read => ⟨?_, spans t read⟩
    have first : (watching.next g op (.ok a)).readings = (op.reads? (.ok a)).toList ++ g.readings := rfl
    rw [first, read]
    exact List.mem_cons_self
  | error fault =>
    have may : op.neverFails = false := by
      refine Bool.eq_false_iff.2 fun never => ?_
      obtain ⟨a, impossible⟩ := works never
      cases impossible
    have told : (watching.next g op (.error fault)).interrupted = (g.interrupted || fault.isInterrupt) := rfl
    rw [told]
    cases broken : fault.isInterrupt with
    | false =>
      rw [Bool.or_false]
      exact .failed may broken
    | true =>
      rw [Bool.or_true]
      exact .interrupted broken

/-- The outcome of an attempt: where it was interrupted, so is the attempt. -/
theorem EndsIn.settled {R : α → Prop} {before after : Bool} {r : Except Fault α}
    (h : EndsIn fails R before r after) :
    EndsIn False (fun r : Except Fault α => ∀ a, r = .ok a → R a) before (settled r) after := by
  cases h with
  | ok value =>
    refine .ok fun a same => ?_
    cases same
    exact value
  | @failed fault may ordinary =>
    rw [settled_of_ordinary (faulty_error ordinary)]
    exact .ok fun a same => by cases same
  | @interrupted fault broken =>
    have same : KeywordSuite.settled (.error fault : Except Fault α) = .error fault := if_pos broken
    rw [same]
    exact .interrupted broken

end

/-! ## Procedures of a context -/

section

variable {α β : Type} {fails : Prop} {R : List Float → α → Prop} {k : List Float}

theorem watched_perform (op : SharedOp) :
    Watched (op.neverFails = false) (fun k₁ a => op.Answered k k₁ a) k (ContextProcedure.perform op) := by
  intro c g later
  refine meets_perform.2 ⟨g, rfl, fun reply answered => ?_⟩
  obtain ⟨grown, ended⟩ := endsIn_reply answered
  refine ⟨grown, ended.mono id fun a value t read => ?_⟩
  exact ⟨(value t read).1, fun t₀ mem => (value t read).2 t₀ (later mem)⟩

theorem watched_op (op : SharedOp) : Watched True AnyValue k (ContextProcedure.perform op) :=
  (watched_perform op).mono (fun _ => trivial) fun _ _ _ _ => trivial

theorem watched_safe (op : SharedOp) (safe : op.neverFails = true) :
    Watched fails (fun k₁ a => op.Answered k k₁ a) k (ContextProcedure.perform op) :=
  (watched_perform op).mono (fun may => by rw [safe] at may; cases may) fun _ _ _ value => value

theorem watched_contextLog (level : LogLevel) (message : String) :
    Watched fails AnyValue k (ContextProcedure.log level message) :=
  (watched_safe _ rfl).any

theorem watched_contextFail (reason : String) : Watched fails AnyValue k (ContextProcedure.fail reason) :=
  (watched_modify _).bind fun _ _ _ _ => watched_contextLog _ _

theorem Watched.attempt {p : ContextProcedure α} (h : Watched fails R k p) :
    Watched False (fun k₁ r => ∀ a, r = .ok a → R k₁ a) k p.attempt := by
  intro c g later
  exact meets_attempt.2 ((h c g later).mono fun r y g' ended => ⟨ended.1, ended.2.settled⟩)

theorem watched_cleanUp : Watched fails AnyValue k ContextProcedure.cleanUp := by
  have clears : ∀ k₁, Watched fails AnyValue k₁
      (modify fun c => { c with scratch := [] } : ContextProcedure Unit) := fun _ => watched_modify _
  unfold ContextProcedure.cleanUp
  refine watched_get.bind fun k₁ c _ _ => (watched_set _).bind fun k₂ _ _ _ => ?_
  split
  · rename_i session _
    split
    · have closing : Watched False AnyValue k₂ (do
            if ← ContextProcedure.perform (.isCurrent session c.identity.unit) then
              ContextProcedure.perform (.closeSession c.identity.unit) : ContextProcedure Unit) := by
        refine (watched_safe _ rfl).bind fun k₃ current _ _ => ?_
        cases (current : Bool) with
        | true => exact (watched_safe _ rfl).any
        | false => exact watched_value _
      refine closing.attempt.never.bind fun k₃ closed _ _ => ?_
      cases closed with
      | ok _ => exact clears k₃
      | error fault => exact (watched_contextLog _ _).bind fun _ _ _ _ => clears _
    · exact clears k₂
  · exact clears k₂

end

/-! ## Keywords -/

section

variable {α β : Type} {k : List Float}

/-- A keyword procedure that is interrupted exactly if one of its operations is. -/
abbrev Vigilant (p : KeywordProcedure α) : Prop := ∀ k, Watched True AnyValue k p.runIn

def KeywordRegistry.Vigilant (r : KeywordRegistry) : Prop :=
  ∀ name e, r.resolve? name = some e → ∀ id, KeywordSuite.Vigilant (e.body id)

theorem vigilant_pure (a : α) : Vigilant (pure a : KeywordProcedure α) := fun _ => watched_value a

theorem Vigilant.bind {p : KeywordProcedure α} {f : α → KeywordProcedure β} (h : Vigilant p)
    (rest : ∀ a, Vigilant (f a)) : Vigilant (p >>= f) := by
  intro k
  rw [KeywordProcedure.runIn_bind]
  exact (h k).bind fun k₁ a _ _ => rest a k₁

theorem Vigilant.attempt {p : KeywordProcedure α} (h : Vigilant p) : Vigilant (Procedure.attempt p) := by
  intro k
  rw [KeywordProcedure.runIn_attempt]
  exact (h k).attempt.never.any

theorem vigilant_ofExcept {r : Except Fault α} (ordinary : Ordinary r) : Vigilant (KeywordProcedure.ofExcept r) := by
  cases r with
  | ok a => exact vigilant_pure a
  | error fault => exact fun _ => watched_throw trivial (ordinary fault rfl)

theorem vigilant_perform (op : KeywordOp) : Vigilant (KeywordProcedure.perform op) := by
  intro k
  rw [KeywordProcedure.runIn_perform]
  cases op with
  | fail reason => exact watched_contextFail reason
  | addInput | put | attach => exact watched_modify _
  | input | scratch | attached | passed => exact watched_get.bind fun _ _ _ _ => watched_value _
  | cleanUp => exact watched_cleanUp
  | shared op => exact watched_op op

theorem vigilant_shared (op : SharedOp) : Vigilant (KeywordProcedure.shared op) := vigilant_perform (.shared op)

end

namespace BrowserKeyword

variable {id : CaseIdentity}

theorem vigilant_browse (call : SessionCall) : Vigilant (browse id call) := by
  have asks : Vigilant (do
      let session ← KeywordProcedure.shared (.currentSession id.unit)
      KeywordProcedure.perform (.attach (some session))
      return session : KeywordProcedure SessionId) :=
    (vigilant_shared (.currentSession id.unit)).bind fun _ => (vigilant_perform _).bind fun _ => vigilant_pure _
  have finds : Vigilant (session id) := by
    refine (vigilant_perform .attached).bind fun attached => ?_
    cases attached with
    | none => exact asks
    | some session =>
      refine (vigilant_shared (.isCurrent session id.unit)).bind fun current => ?_
      cases (current : Bool) with
      | true => exact vigilant_pure session
      | false => exact asks
  exact finds.bind fun n => vigilant_shared (.browse n call)

theorem Assembled.vigilant {α : Type} {p : KeywordProcedure α} (h : Assembled id p) : Vigilant p := by
  induction h with
  | pure a => exact vigilant_pure a
  | ofExcept ordinary => exact vigilant_ofExcept ordinary
  | bind _ _ ihp ihf => exact ihp.bind ihf
  | attempt _ ih => exact ih.attempt
  | log level message => exact vigilant_shared (.log level message)
  | report _ told failed =>
    refine Vigilant.bind (vigilant_shared (.report _)).attempt fun answer => ?_
    cases answer with
    | ok answer =>
      rw [told]
      exact vigilant_pure _
    | error fault =>
      rw [failed]
      exact (vigilant_shared (.log _ _)).bind fun _ => vigilant_pure _
  | inner op _ => exact vigilant_perform op
  | openSession config => exact vigilant_shared _
  | closeSession => exact vigilant_shared _
  | capture label => exact vigilant_shared _
  | sleep seconds => exact vigilant_shared _
  | browse _ => exact vigilant_browse _

theorem vigilant_of_isBuiltIn {body : KeywordBody} (h : IsBuiltIn body) (id : CaseIdentity) : Vigilant (body id) :=
  (assembled_of_isBuiltIn h id).vigilant

end BrowserKeyword

end KeywordSuite
