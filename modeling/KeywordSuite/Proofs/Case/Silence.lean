import KeywordSuite.Proofs.Suite.Overheard

/-!
# Procedures that tell nothing

A test case tells of itself only at a few places. Everything between them is silent: it neither calls
the report nor informs a listener, whatever it is answered.
-/

namespace KeywordSuite

/-- The protocol of procedures that tell nothing. -/
def silentProtocol : Protocol SharedOp.Reply Unit where
  begins _ op _ := op.isTelling = false
  answers _ _ _ := True
  next _ _ _ := ()

section

variable {σ α β : Type}

def Silent (p : ExceptT Fault (StateT σ (Program SharedOp.Reply)) α) : Prop :=
  ∀ x, Meets silentProtocol p x () fun _ _ _ => True

theorem silent_pure (a : α) : Silent (pure a : ExceptT Fault (StateT σ (Program SharedOp.Reply)) α) :=
  fun _ => trivial

theorem silent_get : Silent (get : ExceptT Fault (StateT σ (Program SharedOp.Reply)) σ) := fun _ => trivial

theorem silent_set (x : σ) : Silent (set x : ExceptT Fault (StateT σ (Program SharedOp.Reply)) PUnit) :=
  fun _ => trivial

theorem silent_modify (f : σ → σ) :
    Silent (modify f : ExceptT Fault (StateT σ (Program SharedOp.Reply)) PUnit) := fun _ => trivial

theorem Silent.bind {p : ExceptT Fault (StateT σ (Program SharedOp.Reply)) α}
    {f : α → ExceptT Fault (StateT σ (Program SharedOp.Reply)) β} (hp : Silent p) (hf : ∀ a, Silent (f a)) :
    Silent (p >>= f) := by
  intro x
  rw [meets_bind]
  refine (hp x).mono ?_
  intro r y _ _
  cases r with
  | ok a => exact hf a y
  | error fault => exact trivial

end

section

variable {α : Type}

theorem silent_perform {op : SharedOp} (h : op.isTelling = false) : Silent (ContextProcedure.perform op) :=
  fun _ => meets_perform.2 ⟨(), h, fun _ _ => trivial⟩

theorem silent_attempt {p : ContextProcedure α} (hp : Silent p) : Silent p.attempt :=
  fun c => meets_attempt.2 (hp c)

theorem silent_contextFail (reason : String) : Silent (ContextProcedure.fail reason) :=
  (silent_modify _).bind fun _ => silent_perform rfl

theorem silent_cleanUp : Silent ContextProcedure.cleanUp := by
  unfold ContextProcedure.cleanUp
  apply silent_get.bind
  intro c
  apply (silent_set _).bind
  intro _
  have clears : Silent (modify fun c => { c with scratch := [] } : ContextProcedure PUnit) := silent_modify _
  split
  · rename_i session _
    split
    · have closes : Silent (do
          if ← ContextProcedure.perform (.isCurrent session c.identity.unit) then
            ContextProcedure.perform (.closeSession c.identity.unit) : ContextProcedure Unit) := by
        apply (silent_perform rfl).bind
        intro current
        split
        · exact silent_perform rfl
        · exact silent_pure ()
      apply (silent_attempt closes).bind
      intro closed
      cases closed with
      | ok _ => exact clears
      | error fault => exact (silent_perform rfl).bind fun _ => clears
    · exact clears
  · exact clears

/-! ## Dispatching silent keywords -/

def KeywordEntry.Silent (e : KeywordEntry) : Prop := ∀ id, KeywordSuite.Silent (e.body id).runIn

/-- No keyword of the registry reports or informs, whatever it is answered. -/
def KeywordRegistry.Silent (r : KeywordRegistry) : Prop := ∀ name e, r.resolve? name = some e → e.Silent

theorem silent_judge (e : KeywordEntry) (returned : Value) : Silent (KeywordRegistry.judge e returned) := by
  have logs : ∀ level message (x : KeywordStatus × Option String), Silent (do
      ContextProcedure.log level message; return x : ContextProcedure (KeywordStatus × Option String)) :=
    fun level message x => (silent_perform rfl).bind fun _ => silent_pure x
  unfold KeywordRegistry.judge
  split
  · exact logs _ _ _
  · split <;> exact logs _ _ _
  · split
    · apply (silent_perform rfl).bind
      intro _
      apply silent_get.bind
      intro c
      split
      · exact (silent_contextFail _).bind fun _ => silent_pure _
      · exact silent_pure _
    · exact logs _ _ _

theorem silent_conclude (e : Except Fault KeywordExecution) : Silent (KeywordRegistry.conclude e) :=
  fun _ => trivial

theorem silent_runEntry {e : KeywordEntry} (h : e.Silent) : Silent (KeywordRegistry.runEntry e) := by
  unfold KeywordRegistry.runEntry
  apply (silent_perform rfl).bind
  intro _
  apply (silent_perform rfl).bind
  intro start
  apply silent_get.bind
  intro c
  apply (silent_attempt (h c.identity)).bind
  intro outcome
  apply (silent_perform rfl).bind
  intro stop
  cases outcome with
  | error fault =>
    apply (silent_perform rfl).bind
    intro _
    exact (silent_contextFail _).bind fun _ => silent_conclude _
  | ok returned =>
    apply (silent_perform rfl).bind
    intro _
    exact (silent_judge e returned).bind fun _ => silent_conclude _

theorem silent_dispatch {registry : KeywordRegistry} (h : registry.Silent) (name : Option String) :
    Silent (registry.dispatch name) := by
  unfold KeywordRegistry.dispatch
  split
  · apply (silent_perform rfl).bind
    intro _
    exact (silent_contextFail _).bind fun _ => silent_pure _
  · rename_i e he
    exact silent_runEntry (h name e he)

/-! ## The silent stages of a test case -/

variable (d : CaseDescriptor)

theorem silent_onContext {p : ContextProcedure α} (hp : Silent p) : Silent (CaseProcedure.onContext p) :=
  fun st => meets_onContext.2 (hp st.context)

theorem silent_casePerform {op : SharedOp} (h : op.isTelling = false) : Silent (CaseProcedure.perform op) :=
  silent_onContext (silent_perform h)

theorem silent_caseFail (reason : String) : Silent (CaseProcedure.fail reason) :=
  silent_onContext (silent_contextFail reason)

theorem silent_caseAttempt {p : CaseProcedure α} (hp : Silent p) : Silent p.attempt :=
  fun st => meets_caseAttempt.2 (hp st)

theorem silent_ofExcept (e : Except Fault α) : Silent (CaseProcedure.ofExcept e) :=
  fun _ => (meets_ofExcept e).2 trivial

theorem silent_recordResult (keys : List String) (startedAt : Timestamp) (start : Float) :
    Silent (d.recordResult keys startedAt start) := by
  have builds : Silent (d.buildResult keys startedAt start) := by
    apply silent_get.bind
    intro st
    apply (silent_ofExcept _).bind
    intro metadata
    apply (silent_casePerform rfl).bind
    intro completedAt
    exact (silent_casePerform rfl).bind fun _ => silent_ofExcept _
  have fails : Silent (d.buildFailure startedAt start) := by
    apply silent_get.bind
    intro st
    apply (silent_casePerform rfl).bind
    intro completedAt
    exact (silent_casePerform rfl).bind fun _ => silent_ofExcept _
  apply (silent_caseAttempt builds).bind
  intro built
  cases built with
  | ok r => exact silent_pure r
  | error fault =>
    apply (silent_casePerform rfl).bind
    intro _
    exact (silent_caseFail _).bind fun _ => fails

theorem silent_release (unit : UnitId) : Silent (CaseDescriptor.release unit) :=
  (silent_onContext silent_cleanUp).bind fun _ => silent_casePerform rfl

end

/-! ## Silence is not heard -/

section

variable {ω σ α : Type} {s : Surroundings ω}

theorem heard_of_silent {p : Program SharedOp.Reply α} (h : p.Keeps silentProtocol () fun _ _ => True) :
    ∀ w, (p.run s.overheard.handle w).2.outer.heard = w.outer.heard := by
  induction p with
  | done a => exact fun _ => rfl
  | call op resume ih =>
    intro w
    obtain ⟨_, silent, rest⟩ := h
    exact (ih _ (rest _ trivial) _).trans (heard_silent _ silent w)

/-- A silent procedure leaves what was heard as it was. -/
theorem Silent.unheard {p : ExceptT Fault (StateT σ (Program SharedOp.Reply)) α} (hp : Silent p) {x : σ}
    {w : World (Overheard ω)} {post : Except Fault α → σ → World (Overheard ω) → Prop}
    (h : Meets s.overheard.actual p x w post) : Meets s.overheard.actual p x w fun r y w' =>
      w'.outer.heard = w.outer.heard ∧ post r y w' := by
  unfold Meets at h ⊢
  rw [Surroundings.keeps_actual] at h ⊢
  exact ⟨heard_of_silent (hp x) w, h⟩

end

end KeywordSuite
