import KeywordSuite.Proofs.Protocol
import KeywordSuite.Suite.Case

/-!
# Rules for the procedures of contexts, test cases and keywords

One rule for each way in which procedures are put together: a procedure meets a property from a
state and a stage on exactly if its parts meet what the rule asks of them.
-/

namespace KeywordSuite

/-- The outcome of an attempt: a fault becomes a value, unless it is an interruption. -/
def settled {α : Type} : Except Fault α → Except Fault (Except Fault α)
  | .ok a => .ok (.ok a)
  | .error fault => if fault.isInterrupt then .error fault else .ok (.error fault)

section

variable {α β γ : Type} {P : Protocol SharedOp.Reply γ} {g : γ}

/-! ## Shared procedures -/

theorem keeps_perform {op : SharedOp} {post : Except Fault op.Reply → γ → Prop} :
    (ExceptT.run (SharedProcedure.perform op)).Keeps P g post ↔
      ∃ h, P.begins g op h ∧ ∀ reply, P.answers h op reply → post reply (P.next h op reply) := Iff.rfl

theorem keeps_attempt {p : SharedProcedure α} {post : Except Fault (Except Fault α) → γ → Prop} :
    (ExceptT.run p.attempt).Keeps P g post ↔ (ExceptT.run p).Keeps P g fun r h => post (settled r) h := by
  refine (Program.keeps_bind (ExceptT.run p) _ _ g).trans ⟨Program.Keeps.mono ?_, Program.Keeps.mono ?_⟩ <;>
    · rintro (_ | _) _ h <;> exact h

theorem keeps_outcome {p : SharedProcedure α} {post : Except Fault (Except Fault α) → γ → Prop} :
    (ExceptT.run (Procedure.outcome p)).Keeps P g post ↔ (ExceptT.run p).Keeps P g fun r h => post (.ok r) h :=
  Program.keeps_bind (ExceptT.run p) _ _ g

theorem keeps_seq {p : SharedProcedure α} {f : α → SharedProcedure β} {post : Except Fault β → γ → Prop} :
    (ExceptT.run (p >>= f)).Keeps P g post ↔
      (ExceptT.run p).Keeps P g fun r h =>
        match r with
        | .ok a => (ExceptT.run (f a)).Keeps P h post
        | .error fault => post (.error fault) h := by
  refine (Program.keeps_bind (ExceptT.run p) _ _ g).trans ⟨Program.Keeps.mono ?_, Program.Keeps.mono ?_⟩ <;>
    · rintro (_ | _) _ h <;> exact h

section

variable {may : SharedOp → Prop} (logs : ∀ level message, may (.log level message))
include logs

theorem only_tellReport {call : ReportCall} (told : may (.report call)) : Procedure.Only may (tellReport call) := by
  have tells : Procedure.Only may (SharedProcedure.perform (.report call)) := Procedure.only_perform told
  refine tells.attempt.bind fun answer => ?_
  cases answer with
  | ok answer => exact Procedure.only_pure answer
  | error fault => exact Procedure.Only.bind (Procedure.only_perform (logs _ _)) fun _ => Procedure.only_pure none

theorem only_reportExecution (reports : ∀ call, may (.report call)) (d : CaseDescriptor) (e : KeywordExecution) :
    Procedure.Only may (d.reportExecution e) := by
  have tells : ∀ call, Procedure.Only may (do let _ ← tellReport call : SharedProcedure Unit) :=
    fun call => (only_tellReport logs (reports call)).bind fun _ => Procedure.only_pure ()
  unfold CaseDescriptor.reportExecution
  split
  · exact Procedure.only_pure ()
  · exact tells _
  · exact tells _

theorem only_captureFailure {r : CaseResult} {u : UnitId}
    (captures : may (.captureOnFailure r.testId r.testName r.failureReason u)) :
    Procedure.Only may (CaseDescriptor.captureFailure r u) := by
  have shows : Procedure.Only may (SharedProcedure.perform
      (.captureOnFailure r.testId r.testName r.failureReason u)) := Procedure.only_perform captures
  refine shows.attempt.bind fun captured => ?_
  cases captured with
  | ok path => exact Procedure.only_pure path
  | error fault => exact Procedure.Only.bind (Procedure.only_perform (logs _ _)) fun _ => Procedure.only_pure none

end

/-! ## Procedures of a context -/

section

variable {c : Context} {post : Except Fault α → Context → γ → Prop}

theorem meets_shared {p : SharedProcedure α} :
    Meets P (ContextProcedure.shared p) c g post ↔
      (ExceptT.run p).Keeps P g fun r h => post r c h :=
  Program.keeps_bind (ExceptT.run p) _ _ g

theorem meets_perform {op : SharedOp} {post : Except Fault op.Reply → Context → γ → Prop} :
    Meets P (ContextProcedure.perform op) c g post ↔
      ∃ h, P.begins g op h ∧ ∀ reply, P.answers h op reply → post reply c (P.next h op reply) :=
  meets_shared

/-- Under a handler, an operation comes to what it is answered. -/
theorem meets_handled {σ : Type} {handle : (op : SharedOp) → Act σ op.Reply} {x : σ} {op : SharedOp}
    {post : Except Fault op.Reply → Context → σ → Prop} :
    Meets (Program.handled handle) (ContextProcedure.perform op) c x post ↔
      post ((handle op).run x).1 c ((handle op).run x).2 := by
  refine meets_perform.trans ⟨?_, fun h => ⟨x, rfl, by rintro _ rfl; exact h⟩⟩
  intro told
  obtain ⟨_, rfl, h⟩ := told
  exact h _ rfl

theorem meets_attempt {p : ContextProcedure α} {post : Except Fault (Except Fault α) → Context → γ → Prop} :
    Meets P p.attempt c g post ↔ Meets P p c g fun r c h => post (settled r) c h := by
  refine (Program.keeps_bind (p.run c) _ _ g).trans ⟨Program.Keeps.mono ?_, Program.Keeps.mono ?_⟩ <;>
    · rintro ⟨_ | _, _⟩ _ h <;> exact h

/-- At stages with a property an operation may be begun, comes to a value, and keeps the property. -/
def Protocol.Serves (P : Protocol SharedOp.Reply γ) (I : γ → Prop) (op : SharedOp) : Prop :=
  ∀ g, I g → ∃ h, P.begins g op h ∧
    ∀ reply, P.answers h op reply → (∃ a, reply = .ok a) ∧ I (P.next h op reply)

theorem meets_cleanUp {I : γ → Prop} (current : ∀ session, P.Serves I (.isCurrent session c.identity.unit))
    (closes : P.Serves I (.closeSession c.identity.unit)) (hg : I g) :
    Meets P ContextProcedure.cleanUp c g fun r c' h => r = .ok () ∧
      c' = { c with cleanedUp := true, session := none, scratch := [] } ∧ I h := by
  unfold ContextProcedure.cleanUp
  rw [meets_bind, meets_get]
  dsimp only
  rw [meets_bind, meets_set]
  dsimp only
  split
  · rename_i session _
    split
    · rw [meets_bind, meets_attempt, meets_bind, meets_perform]
      obtain ⟨h, begins, answered⟩ := current session g hg
      refine ⟨h, begins, ?_⟩
      intro reply hreply
      obtain ⟨⟨live, hlive⟩, kept⟩ := answered reply hreply
      rw [hlive] at kept ⊢
      cases live with
      | false => exact ⟨rfl, rfl, kept⟩
      | true =>
        simp only [if_true]
        rw [meets_perform]
        obtain ⟨k, begins, answered⟩ := closes _ kept
        refine ⟨k, begins, ?_⟩
        intro reply hreply
        obtain ⟨⟨_, hclosed⟩, kept⟩ := answered reply hreply
        rw [hclosed] at kept ⊢
        exact ⟨rfl, rfl, kept⟩
    · exact ⟨rfl, rfl, hg⟩
  · exact ⟨rfl, rfl, hg⟩

end

/-! ## Procedures of a test case -/

section

variable {st : CaseState} {post : Except Fault α → CaseState → γ → Prop}

theorem meets_onContext {p : ContextProcedure α} :
    Meets P (CaseProcedure.onContext p) st g post ↔
      Meets P p st.context g fun r c h => post r { st with context := c } h :=
  Program.keeps_bind (p.run st.context) _ _ g

theorem meets_caseAttempt {p : CaseProcedure α}
    {post : Except Fault (Except Fault α) → CaseState → γ → Prop} :
    Meets P p.attempt st g post ↔ Meets P p st g fun r st h => post (settled r) st h := by
  refine (Program.keeps_bind (p.run st) _ _ g).trans ⟨Program.Keeps.mono ?_, Program.Keeps.mono ?_⟩ <;>
    · rintro ⟨_ | _, _⟩ _ h <;> exact h

theorem meets_ofExcept (e : Except Fault α) :
    Meets P (CaseProcedure.ofExcept e) st g post ↔ post e st g := by
  cases e <;> rfl

/-- What counts after a procedure and the one done last: a fault of the last, or else the first outcome. -/
def lastFault (r : Except Fault α) : Except Fault Unit → Except Fault α
  | .ok () => r
  | .error fault => .error fault

theorem meets_andFinally {p : CaseProcedure α} {last : CaseProcedure Unit} :
    Meets P (p.andFinally last) st g post ↔
      Meets P p st g fun r st h => Meets P last st h fun r' st h => post (lastFault r r') st h := by
  have last_keeps : ∀ (r : Except Fault α) (st : CaseState) (h : γ),
      ((last.run st).bind fun x => match x.1 with
        | .ok () => Program.done (r, x.2)
        | .error fault => .done (.error fault, x.2)).Keeps P h (fun r h => post r.1 r.2 h) ↔
      Meets P last st h fun r' st h => post (lastFault r r') st h := by
    intro r st h
    refine (Program.keeps_bind (last.run st) _ _ h).trans ⟨Program.Keeps.mono ?_, Program.Keeps.mono ?_⟩ <;>
      · rintro ⟨_ | _, _⟩ _ h <;> exact h
  refine (Program.keeps_bind (p.run st) _ _ g).trans ⟨Program.Keeps.mono ?_, Program.Keeps.mono ?_⟩ <;>
    · intro told h hr
      obtain ⟨r, st⟩ := told
      first | exact (last_keeps r st h).1 hr | exact (last_keeps r st h).2 hr

end

end

/-! ## Keywords -/

theorem KeywordOp.runProgram_bind {α β : Type} (p : Program KeywordOp.Reply α)
    (f : α → Program KeywordOp.Reply β) :
    ∀ c, runProgram (p.bind f) c = (runProgram p c).bind fun r => runProgram (f r.1) r.2 := by
  induction p with
  | done a => intro c; rfl
  | call op resume ih =>
    intro c
    simp only [Program.bind, runProgram, Program.bind_assoc]
    exact congrArg _ (funext fun r => ih r.1 r.2)

section

variable {α β γ : Type}

namespace KeywordProcedure

theorem runIn_bind (p : KeywordProcedure α) (f : α → KeywordProcedure β) :
    (p >>= f).runIn = p.runIn >>= fun a => (f a).runIn := by
  funext c
  refine (KeywordOp.runProgram_bind (ExceptT.run p) (ExceptT.bindCont f) c).trans ?_
  refine congrArg (Program.bind (KeywordOp.runProgram (ExceptT.run p) c)) (funext fun r => ?_)
  obtain ⟨_ | _, _⟩ := r <;> rfl

theorem runIn_perform (op : KeywordOp) : (perform op).runIn = op.serve :=
  funext fun c => Program.bind_done (op.serve.run c)

theorem runIn_attempt (p : KeywordProcedure α) : KeywordProcedure.runIn (Procedure.attempt p) = p.runIn.attempt := by
  funext c
  refine (KeywordOp.runProgram_bind (ExceptT.run p) _ c).trans ?_
  refine congrArg (Program.bind (KeywordOp.runProgram (ExceptT.run p) c)) (funext fun r => ?_)
  obtain ⟨_ | _, _⟩ := r <;> rfl

end KeywordProcedure

variable {P : Protocol SharedOp.Reply γ} {g : γ} {c : Context}

theorem meets_keyword_bind {p : KeywordProcedure α} {f : α → KeywordProcedure β}
    {post : Except Fault β → Context → γ → Prop} :
    Meets P (p >>= f).runIn c g post ↔
      Meets P p.runIn c g fun r c h =>
        match r with
        | .ok a => Meets P (f a).runIn c h post
        | .error fault => post (.error fault) c h := by
  rw [KeywordProcedure.runIn_bind]
  exact meets_bind _ _ _

theorem meets_keyword_perform {op : KeywordOp} {post : Except Fault op.Reply → Context → γ → Prop} :
    Meets P (KeywordProcedure.perform op).runIn c g post ↔ Meets P op.serve c g post := by
  rw [KeywordProcedure.runIn_perform]

end

end KeywordSuite
