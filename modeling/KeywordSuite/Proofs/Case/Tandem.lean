import KeywordSuite.Proofs.Coupling

/-!
# Two runs of a test case in tandem

A test case that runs on two units, in worlds of their own, is compared operation by operation. The
sessions it opens there are paired in the order they are opened, and its clocks may read differently.
-/

namespace KeywordSuite

/-- What two runs have in common so far: the sessions that are paired, and the stopwatches read. -/
structure Ties where
  sessions : List (SessionId × SessionId)
  readings : List (Float × Float)

instance : Preorder Ties where
  le k k' := k.sessions ⊆ k'.sessions ∧ k.readings ⊆ k'.readings
  le_refl _ := ⟨List.Subset.refl _, List.Subset.refl _⟩
  le_trans _ _ _ h h' := ⟨List.Subset.trans h.1 h'.1, List.Subset.trans h.2 h'.2⟩

/-- Two runs may have any values here. -/
abbrev AnyValues {α β : Type} (_ : Ties) (_ : α) (_ : β) : Prop := True

abbrev EqualValues {α : Type} (_ : Ties) (a b : α) : Prop := a = b

/-- Operations of which a test case learns nothing that matters to it. -/
def SharedOp.IsAside : SharedOp → Prop
  | .log .. | .report _ | .inform .. => True
  | _ => False

/-- Logging works; telling the report or a listener may fail. -/
def SharedOp.AsideReply : (op : SharedOp) → Except Fault op.Reply → Prop
  | .log .., r => r = .ok ()
  | _, r => Ordinary r

/--
The operations that two runs do together on the units `u` and `v`, whether they may fail, and what
relates their values. A session is only driven in both runs at once, by the same call.
-/
inductive Tandem (u v : UnitId) (k : Ties) :
    (op op' : SharedOp) → Prop → (Ties → op.Reply → op'.Reply → Prop) → Prop
  | now : Tandem u v k .now .now False AnyValues
  | stopwatch : Tandem u v k .stopwatch .stopwatch False fun k' t t' => (t, t') ∈ k'.readings
  | elapsed {t t' : Float} (read : (t, t') ∈ k.readings) :
      Tandem u v k .stopwatch .stopwatch False fun _ x x' => 0.0 ≤ x - t ∧ 0.0 ≤ x' - t'
  | sleep (seconds : Float) : Tandem u v k (.sleep seconds) (.sleep seconds) True AnyValues
  | openSession (config : Option SessionConfig) :
      Tandem u v k (.openSession config u) (.openSession config v) True fun k' n m => (n, m) ∈ k'.sessions
  | closeSession : Tandem u v k (.closeSession u) (.closeSession v) False AnyValues
  | resetSession : Tandem u v k (.resetSession u) (.resetSession v) False AnyValues
  | currentSession :
      Tandem u v k (.currentSession u) (.currentSession v) True fun k' n m => (n, m) ∈ k'.sessions
  | isActive : Tandem u v k (.isActive u) (.isActive v) False (EqualValues (α := Bool))
  | isCurrent {n m : SessionId} (pair : (n, m) ∈ k.sessions) :
      Tandem u v k (.isCurrent n u) (.isCurrent m v) False (EqualValues (α := Bool))
  | browse {n m : SessionId} (pair : (n, m) ∈ k.sessions) (call : SessionCall) :
      Tandem u v k (.browse n call) (.browse m call) True
        (EqualValues (α := call.Reply))
  | captureOnDemand (label : String) :
      Tandem u v k (.captureOnDemand label u) (.captureOnDemand label v) True fun _ => Option.Rel TextAlike
  | captureOnFailure (testId testName : String) {reason reason' : Option String}
      (alike : Option.Rel TextAlike reason reason') :
      Tandem u v k (.captureOnFailure testId testName reason u) (.captureOnFailure testId testName reason' v)
        True fun _ => Option.Rel TextAlike
  | loadInput (testId : String) : Tandem u v k (.loadInput testId) (.loadInput testId) True EqualValues
  | loadKeywords (testId : String) :
      Tandem u v k (.loadKeywords testId) (.loadKeywords testId) True EqualValues

theorem Tandem.later {u v : UnitId} {k k' : Ties} {op op' : SharedOp} {fails : Prop}
    {R : Ties → op.Reply → op'.Reply → Prop} (h : Tandem u v k op op' fails R) (grown : k ≤ k') :
    Tandem u v k' op op' fails R := by
  cases h with
  | now => exact .now
  | stopwatch => exact .stopwatch
  | elapsed read => exact .elapsed (grown.2 read)
  | sleep seconds => exact .sleep seconds
  | openSession config => exact .openSession config
  | closeSession => exact .closeSession
  | resetSession => exact .resetSession
  | currentSession => exact .currentSession
  | isActive => exact .isActive
  | isCurrent pair => exact .isCurrent (grown.1 pair)
  | browse pair call => exact .browse (grown.1 pair) call
  | captureOnDemand label => exact .captureOnDemand label
  | captureOnFailure testId testName alike => exact .captureOnFailure testId testName alike
  | loadInput testId => exact .loadInput testId
  | loadKeywords testId => exact .loadKeywords testId

def tandem (u v : UnitId) : Coupling SharedOp.Reply Ties where
  aside := SharedOp.IsAside
  replies := SharedOp.AsideReply
  together k op op' answers := ∃ fails R, Tandem u v k op op' fails R ∧
    answers = fun reply reply' k' => k ≤ k' ∧ Matched fails (R k') reply reply'

/-! ## Contexts -/

/-- Contexts on two units that differ at most in their sessions and in time stamps. -/
structure Context.Alike (u v : UnitId) (k : Ties) (c c' : Context) : Prop where
  identity : c.identity = { c'.identity with unit := u }
  unit : c'.identity.unit = v
  hasRegistry : c.hasRegistry = c'.hasRegistry
  input : c.input = c'.input
  scratch : Entries.Rel Value.Alike c.scratch c'.scratch
  failures : List.Forall₂ TextAlike c.failures c'.failures
  session : Option.Rel (fun n m => (n, m) ∈ k.sessions) c.session c'.session
  cleanedUp : c.cleanedUp = c'.cleanedUp

namespace Context.Alike

variable {u v : UnitId} {k k' : Ties} {c c' : Context}

theorem later (h : c.Alike u v k c') (grown : k ≤ k') : c.Alike u v k' c' where
  __ := h
  session := by
    have session := h.session
    generalize c.session = x, c'.session = y at session ⊢
    cases session with
    | none => exact .none
    | some pair => exact .some (grown.1 pair)

theorem passed (h : c.Alike u v k c') : c.passed = c'.passed := by
  have failures := h.failures
  unfold Context.passed
  generalize c.failures = x, c'.failures = y at failures ⊢
  cases failures <;> rfl

theorem failureReason (h : c.Alike u v k c') : Option.Rel TextAlike c.failureReason c'.failureReason := by
  have failures := h.failures
  unfold Context.failureReason
  generalize c.failures = x, c'.failures = y at failures ⊢
  cases failures with
  | nil => exact .none
  | cons alike _ => exact .some alike

theorem fail (h : c.Alike u v k c') {reason reason' : String} (alike : TextAlike reason reason') :
    (c.fail reason).Alike u v k (c'.fail reason') :=
  { h with failures := List.rel_append h.failures (.cons alike .nil) }

end Context.Alike

/-- The states of a test case that runs on two units. -/
structure CaseState.Alike (u v : UnitId) (k : Ties) (st st' : CaseState) : Prop where
  context : st.context.Alike u v k st'.context
  executions : List.Forall₂ KeywordExecution.Alike st.executions st'.executions

section

variable {u v : UnitId} {k : Ties} {fails : Prop} {α β γ δ : Type} {R : Ties → α → β → Prop}
  {S : Ties → γ → δ → Prop}

/-! ## Shared procedures -/

theorem tied_perform {op op' : SharedOp} {R : Ties → op.Reply → op'.Reply → Prop}
    (h : Tandem u v k op op' fails R) :
    Tied (tandem u v) fails R k (SharedProcedure.perform op) (SharedProcedure.perform op') :=
  fun _ later => .both ⟨fails, R, h.later later, rfl⟩ fun _ _ _ answered => .done answered

theorem alone_pure (a : α) : Alone (tandem u v) (pure a : SharedProcedure α) := ⟨a, rfl⟩

theorem alone_log (level : LogLevel) (message : String) :
    Alone (tandem u v) (SharedProcedure.log level message) :=
  ⟨(), trivial, fun _ replied => ⟨(), replied⟩⟩

theorem alone_bind {p : SharedProcedure α} {f : α → SharedProcedure β} (hp : Alone (tandem u v) p)
    (hf : ∀ a, Alone (tandem u v) (f a)) : Alone (tandem u v) (p >>= f) := by
  unfold Alone
  rw [keeps_seq]
  refine hp.mono ?_
  rintro _ _ ⟨a, rfl⟩
  exact hf a

theorem alone_attempt {op : SharedOp} (aside : op.IsAside) (ordinary : ∀ r, op.AsideReply r → Ordinary r) :
    Alone (tandem u v) (SharedProcedure.perform op).attempt := by
  unfold Alone
  rw [keeps_attempt, keeps_perform]
  exact ⟨(), aside, fun r replied => ⟨r, settled_of_ordinary (ordinary r replied)⟩⟩

theorem alone_tellReport (call : ReportCall) : Alone (tandem u v) (tellReport call) := by
  refine alone_bind (alone_attempt trivial fun _ ordinary => ordinary) fun told => ?_
  cases told with
  | ok answer => exact alone_pure answer
  | error fault => exact alone_bind (alone_log _ _) fun _ => alone_pure none

theorem alone_informAll (news : SuiteNews) : ∀ names n, Alone (tandem u v) (informAll news n names)
  | [], _ => alone_pure ()
  | _ :: rest, n => by
    refine alone_bind (alone_attempt trivial fun _ ordinary => ordinary) fun told => ?_
    cases told with
    | ok _ => exact alone_informAll news rest (n + 1)
    | error fault => exact alone_bind (alone_log _ _) fun _ => alone_informAll news rest (n + 1)

/-! ## Procedures of a context -/

abbrev ContextTwin (u v : UnitId) (fails : Prop) (R : Ties → α → β → Prop) (k : Ties) (p : ContextProcedure α)
    (q : ContextProcedure β) : Prop :=
  Twin (tandem u v) (Context.Alike u v) fails R k p q

theorem twin_shared {p : SharedProcedure α} {q : SharedProcedure β} (h : Tied (tandem u v) fails R k p q) :
    ContextTwin u v fails R k (.shared p) (.shared q) := by
  intro k₁ c c' later alike
  refine (h k₁ later).bind ?_
  rintro k₂ r r' ⟨grown, matched⟩
  exact .done ⟨grown, matched, alike.later grown⟩

theorem twin_perform {op op' : SharedOp} {R : Ties → op.Reply → op'.Reply → Prop}
    (h : Tandem u v k op op' fails R) : ContextTwin u v fails R k (.perform op) (.perform op') :=
  twin_shared (tied_perform h)

theorem twin_contextLog {level level' : LogLevel} {message message' : String} :
    ContextTwin u v fails AnyValues k (.log level message) (.log level' message') :=
  twin_shared (tied_alone (alone_log _ _) (alone_log _ _) fun _ _ _ _ => trivial)

theorem twin_contextFail {reason reason' : String} (alike : TextAlike reason reason') :
    ContextTwin u v fails AnyValues k (.fail reason) (.fail reason') :=
  (twin_modify (R := AnyValues) fun _ _ _ _ contexts => ⟨contexts.fail alike, trivial⟩).bind
    fun _ _ _ _ _ => twin_contextLog

theorem twin_attempt {p : ContextProcedure α} {q : ContextProcedure β} (h : ContextTwin u v fails R k p q) :
    ContextTwin u v False (fun k₁ => Matched fails (R k₁)) k p.attempt q.attempt := by
  intro k₁ c c' later alike
  refine (h k₁ c c' later alike).bind ?_
  rintro k₂ ⟨r, c₂⟩ ⟨r', c₂'⟩ ⟨grown, matched, alike⟩
  dsimp only at matched
  cases matched with
  | ok related => exact .done ⟨grown, .ok (.ok related), alike⟩
  | error may faults =>
    dsimp only
    rw [faults.ordinary, faults.ordinary']
    exact .done ⟨grown, .ok (.error may faults), alike⟩

theorem twin_cleanUp : ContextTwin u v False AnyValues k ContextProcedure.cleanUp ContextProcedure.cleanUp := by
  unfold ContextProcedure.cleanUp
  refine twin_get.bind fun k₁ c c' _ alike => ?_
  have cleans : ∀ k₁, ContextTwin u v False AnyValues k₁ (modify fun c => { c with scratch := [] })
      (modify fun c => { c with scratch := [] }) :=
    fun k₁ => twin_modify fun _ _ _ _ contexts => ⟨{ contexts with scratch := .nil }, trivial⟩
  refine (twin_set (R := AnyValues) fun k₂ later =>
    ⟨{ alike.later later with session := .none, cleanedUp := rfl }, trivial⟩).bind fun k₂ _ _ later _ => ?_
  have pair := (alike.later later).session
  have owns : c.identity.unit = u := by rw [alike.identity]
  rw [alike.cleanedUp, alike.hasRegistry, owns, alike.unit]
  generalize c.session = x, c'.session = y at pair ⊢
  cases pair with
  | none => exact cleans k₂
  | @some n m pair =>
    dsimp only
    split
    · have closing : ContextTwin u v False AnyValues k₂ (do
            if ← ContextProcedure.perform (.isCurrent n u) then ContextProcedure.perform (.closeSession u))
          (do if ← ContextProcedure.perform (.isCurrent m v) then ContextProcedure.perform (.closeSession v)) := by
        refine (twin_perform (.isCurrent pair)).bind fun k₃ current _ _ same => ?_
        obtain rfl := same
        cases current with
        | true => exact twin_perform .closeSession
        | false => exact twin_pure fun _ _ => trivial
      refine (twin_attempt closing).bind fun k₃ _ _ _ matched => ?_
      cases matched with
      | ok _ => exact cleans k₃
      | error never _ => exact never.elim
    · exact cleans k₂

end

end KeywordSuite
