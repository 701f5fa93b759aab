import KeywordSuite.Proofs.Keyword.Assembly
import KeywordSuite.Proofs.Procedures
import KeywordSuite.Report.HtmlCase

/-!
# Keywords that tell the report of their own test case

A report keeps a mark for each test case, by what it is told under the id of that one. A keyword is discreet if
whatever it tells the report is about the test case it runs for, and the keywords that drive the browser are.
-/

namespace KeywordSuite

/-! ## Calls and marks -/

/-- The mark of a test case after a call on the report that is about it. -/
def ReportCall.leaves (mark : Option CaseMark) : ReportCall → Option CaseMark
  | .beginSuite => none
  | .beginCase .. => some .running
  | .log .. | .attach .. => some (mark.getD .running)
  | .finishCase status .. => some (.ofStatus status)
  | .endSuite => mark

namespace SharedOp

/-- What is told to the report, if anything, is about one test case. -/
def About (testId : String) (op : SharedOp) : Prop := ∀ call, op = .report call → call.testId? = some testId

def leaves (mark : Option CaseMark) : SharedOp → Option CaseMark
  | .report call => call.leaves mark
  | _ => mark

theorem about_of_untold {op : SharedOp} (untold : ∀ call, op ≠ .report call) (testId : String) : op.About testId :=
  fun call told => absurd told (untold call)

theorem leaves_of_untold {op : SharedOp} (untold : ∀ call, op ≠ .report call) (mark : Option CaseMark) :
    op.leaves mark = mark := by
  cases op with
  | report call => exact absurd rfl (untold call)
  | _ => rfl

end SharedOp

/-- The protocol of a test case that tells the report of itself only; a stage is the mark it has there. -/
def marking (testId : String) : Protocol SharedOp.Reply (Option CaseMark) where
  begins mark op next := op.About testId ∧ next = op.leaves mark
  answers _ _ _ := True
  next mark _ _ := mark

/-! ## Discreet procedures -/

section

variable {σ α β : Type}

/-- Run for a test case, a procedure keeps to its protocol, stays with it, and comes to certain values only. -/
def Discreet (id : CaseIdentity) (idOf : σ → CaseIdentity) (R : α → Prop)
    (p : ExceptT Fault (StateT σ (Program SharedOp.Reply)) α) : Prop :=
  ∀ x mark, idOf x = id → Meets (marking id.testId) p x mark fun r y _ => idOf y = id ∧ ∀ a, r = .ok a → R a

variable {id : CaseIdentity} {idOf : σ → CaseIdentity} {R : α → Prop} {S : β → Prop}

theorem discreet_pure {a : α} (h : R a) :
    Discreet id idOf R (pure a : ExceptT Fault (StateT σ (Program SharedOp.Reply)) α) :=
  fun _ _ own => ⟨own, fun _ same => by cases same; exact h⟩

theorem discreet_get :
    Discreet id idOf (fun x => idOf x = id) (get : ExceptT Fault (StateT σ (Program SharedOp.Reply)) σ) :=
  fun _ _ own => ⟨own, fun _ same => by cases same; exact own⟩

theorem discreet_set {y : σ} (own : idOf y = id) :
    Discreet id idOf (fun _ => True) (set y : ExceptT Fault (StateT σ (Program SharedOp.Reply)) PUnit) :=
  fun _ _ _ => ⟨own, fun _ _ => trivial⟩

theorem discreet_modify {f : σ → σ} (stays : ∀ x, idOf (f x) = idOf x) :
    Discreet id idOf (fun _ => True) (modify f : ExceptT Fault (StateT σ (Program SharedOp.Reply)) PUnit) :=
  fun x _ own => ⟨(stays x).trans own, fun _ _ => trivial⟩

theorem Discreet.bind {p : ExceptT Fault (StateT σ (Program SharedOp.Reply)) α}
    {f : α → ExceptT Fault (StateT σ (Program SharedOp.Reply)) β} (hp : Discreet id idOf R p)
    (hf : ∀ a, R a → Discreet id idOf S (f a)) : Discreet id idOf S (p >>= f) := by
  intro x mark own
  rw [meets_bind]
  refine (hp x mark own).mono fun r y next ended => ?_
  cases r with
  | ok a => exact hf a (ended.2 a rfl) y next ended.1
  | error fault => exact ⟨ended.1, fun _ never => by cases never⟩

end

section

variable {α : Type} {id : CaseIdentity} {R : α → Prop}

theorem discreet_perform {op : SharedOp} (about : op.About id.testId) :
    Discreet id Context.identity (fun _ => True) (ContextProcedure.perform op) :=
  fun _ _ own => meets_perform.2 ⟨_, ⟨about, rfl⟩, fun _ _ => ⟨own, fun _ _ => trivial⟩⟩

theorem discreet_aside {op : SharedOp} (untold : ∀ call, op ≠ .report call) :
    Discreet id Context.identity (fun _ => True) (ContextProcedure.perform op) :=
  discreet_perform (SharedOp.about_of_untold untold _)

theorem discreet_attempt {p : ContextProcedure α} (hp : Discreet id Context.identity R p) :
    Discreet id Context.identity (fun _ => True) p.attempt :=
  fun c mark own => meets_attempt.2 ((hp c mark own).mono fun _ _ _ ended => ⟨ended.1, fun _ _ => trivial⟩)

theorem discreet_contextLog (level : LogLevel) (message : String) :
    Discreet id Context.identity (fun _ => True) (ContextProcedure.log level message) :=
  discreet_aside (by simp)

theorem discreet_contextFail (reason : String) :
    Discreet id Context.identity (fun _ => True) (ContextProcedure.fail reason) :=
  (discreet_modify fun _ => rfl).bind fun _ _ => discreet_contextLog _ _

theorem discreet_cleanUp : Discreet id Context.identity (fun _ => True) ContextProcedure.cleanUp := by
  have clears : Discreet id Context.identity (fun _ => True)
      (modify fun c => { c with scratch := [] } : ContextProcedure PUnit) := discreet_modify fun _ => rfl
  unfold ContextProcedure.cleanUp
  refine discreet_get.bind fun c own => Discreet.bind (discreet_set ?_) fun _ _ => ?_
  · exact own
  split
  · rename_i session _
    split
    · have closes : Discreet id Context.identity (fun _ => True) (do
          if ← ContextProcedure.perform (.isCurrent session c.identity.unit) then
            ContextProcedure.perform (.closeSession c.identity.unit) : ContextProcedure Unit) := by
        refine (discreet_aside (by simp)).bind fun current _ => ?_
        split
        · exact discreet_aside (by simp)
        · exact discreet_pure trivial
      refine (discreet_attempt closes).bind fun closed _ => ?_
      cases closed with
      | ok _ => exact clears
      | error fault => exact (discreet_contextLog _ _).bind fun _ _ => clears
    · exact clears
  · exact clears

end

/-! ## Discreet keywords -/

def KeywordOp.About (testId : String) : KeywordOp → Prop
  | .shared op => op.About testId
  | _ => True

/-- A keyword procedure that tells the report of one test case only. -/
def TellsOf (id : CaseIdentity) {α : Type} (p : KeywordProcedure α) : Prop :=
  (ExceptT.run p).Only (KeywordOp.About id.testId)

/-- No keyword tells the report of another test case than the one it runs for. -/
def KeywordRegistry.Discreet (r : KeywordRegistry) : Prop :=
  ∀ name e, r.resolve? name = some e → ∀ id, TellsOf id (e.body id)

section

variable {α β : Type} {id : CaseIdentity}

theorem discreet_serve {op : KeywordOp} (about : op.About id.testId) :
    Discreet id Context.identity (fun _ => True) op.serve := by
  cases op with
  | fail reason => exact discreet_contextFail reason
  | addInput | put | attach => exact discreet_modify fun _ => rfl
  | input | scratch | attached | passed => exact discreet_get.bind fun _ _ => discreet_pure trivial
  | cleanUp => exact discreet_cleanUp
  | shared op => exact discreet_perform about

theorem TellsOf.discreet {p : KeywordProcedure α} (only : TellsOf id p) :
    Discreet id Context.identity (fun _ => True) p.runIn := by
  suffices runs : ∀ {p : Program KeywordOp.Reply (Except Fault α)}, p.Only (KeywordOp.About id.testId) →
      ∀ c mark, c.identity = id → (KeywordOp.runProgram p c).Keeps (marking id.testId) mark fun r _ =>
        r.2.identity = id by
    intro c mark own
    exact Program.Keeps.mono (fun _ _ stays => ⟨stays, fun _ _ => trivial⟩) (runs only c mark own)
  intro p
  induction p with
  | done r => exact fun _ _ _ own => own
  | call op resume ih =>
    intro only c mark own
    unfold KeywordOp.runProgram
    rw [Program.keeps_bind]
    exact Program.Keeps.mono (fun r next ended => ih r.1 (only.2 r.1) r.2 next ended.1)
      (discreet_serve only.1 c mark own)

theorem tellsOf_pure (a : α) : TellsOf id (pure a : KeywordProcedure α) := trivial

theorem tellsOf_perform (op : KeywordOp) (about : op.About id.testId) : TellsOf id (KeywordProcedure.perform op) :=
  ⟨about, fun _ => trivial⟩

theorem tellsOf_aside {op : SharedOp} (untold : ∀ call, op ≠ .report call) : TellsOf id (KeywordProcedure.shared op) :=
  tellsOf_perform (.shared op) (SharedOp.about_of_untold untold _)

theorem TellsOf.bind {p : KeywordProcedure α} {f : α → KeywordProcedure β} (hp : TellsOf id p)
    (hf : ∀ a, TellsOf id (f a)) : TellsOf id (p >>= f) := by
  refine Program.Only.bind (fun r => ?_) hp
  cases r with
  | ok a => exact hf a
  | error fault => trivial

theorem TellsOf.attempt {p : KeywordProcedure α} (hp : TellsOf id p) : TellsOf id (Procedure.attempt p) := by
  refine Program.Only.bind (fun r => ?_) hp
  cases r <;> trivial

namespace BrowserKeyword

theorem tellsOf_session : TellsOf id (session id) := by
  have asks : TellsOf id (do
      let session ← KeywordProcedure.shared (.currentSession id.unit)
      KeywordProcedure.perform (.attach (some session))
      return session : KeywordProcedure SessionId) :=
    (tellsOf_aside (by simp)).bind fun _ => (tellsOf_perform (.attach _) trivial).bind fun _ => tellsOf_pure _
  refine TellsOf.bind (tellsOf_perform .attached trivial) fun attached => ?_
  cases attached with
  | none => exact asks
  | some session =>
    refine TellsOf.bind (tellsOf_aside (by simp)) fun current => ?_
    cases current with
    | true => exact tellsOf_pure session
    | false => exact asks

/-- What is assembled for a test case tells the report of that one. -/
theorem Assembled.tellsOf {p : KeywordProcedure α} (h : Assembled id p) : TellsOf id p := by
  induction h with
  | pure a => exact tellsOf_pure a
  | @ofExcept α r ordinary => cases r <;> trivial
  | bind _ _ ihp ihf => exact ihp.bind ihf
  | attempt _ ih => exact ih.attempt
  | log level message => exact tellsOf_aside (by simp)
  | @report α call message a f own told failed =>
    have about : SharedOp.About id.testId (.report call) := by
      intro other same
      cases same
      exact own
    refine (tellsOf_perform (.shared (.report call)) about).attempt.bind fun answer => ?_
    cases answer with
    | ok answer =>
      rw [told]
      exact tellsOf_pure _
    | error fault =>
      rw [failed]
      exact (tellsOf_aside (by simp)).bind fun _ => tellsOf_pure _
  | inner op inner =>
    apply tellsOf_perform
    cases op with
    | shared op => exact absurd rfl (inner op)
    | _ => trivial
  | openSession | closeSession | capture | sleep => exact tellsOf_aside (by simp)
  | browse stays => exact tellsOf_session.bind fun _ => tellsOf_aside (by simp)

theorem tellsOf_of_isBuiltIn {body : KeywordBody} (h : IsBuiltIn body) (id : CaseIdentity) : TellsOf id (body id) :=
  (assembled_of_isBuiltIn h id).tellsOf

end BrowserKeyword

end

end KeywordSuite
