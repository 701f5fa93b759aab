import KeywordSuite.Proofs.Keyword.Isolation

/-!
# Keywords that do not heed what telling comes to

Two programs echo each other if they do the same operations and come to the same outcome, whatever either
logs or tells on the way and whatever the telling answers. A keyword that echoes itself is heedless; the
keywords that drive the browser are.
-/

namespace KeywordSuite

/-- Operations that matter are done together, and answered the same. -/
inductive Echo : (op op' : SharedOp) → (Except Fault op.Reply → Except Fault op'.Reply → Unit → Prop) → Prop
  | same {op : SharedOp} (matters : ¬ op.IsAside) : Echo op op fun reply reply' _ => reply = reply'

def echo : Coupling SharedOp.Reply Unit where
  aside := SharedOp.IsAside
  replies := SharedOp.AsideReply
  together _ := Echo

section

variable {α β γ σ : Type}

def Echoes (p q : Program SharedOp.Reply α) : Prop := Coupled echo (fun _ => Eq) () p q

theorem echoes_done (a : α) : Echoes (.done a) (.done a) := .done rfl

theorem Echoes.bind {p q : Program SharedOp.Reply α} {f g : α → Program SharedOp.Reply β} (h : Echoes p q)
    (rest : ∀ a, Echoes (f a) (g a)) : Echoes (p.bind f) (q.bind g) :=
  Coupled.bind h fun _ a _ same => same ▸ rest a

theorem echoes_call {op : SharedOp} (matters : ¬ op.IsAside)
    {resume resume' : Except Fault op.Reply → Program SharedOp.Reply α}
    (rest : ∀ reply, Echoes (resume reply) (resume' reply)) : Echoes (.call op resume) (.call op resume') :=
  .both (.same matters) fun reply _ _ same => same ▸ rest reply

/-! ## Procedures over a state -/

/-- From every state, two procedures echo each other. -/
def EchoesIn (p q : ExceptT Fault (StateT σ (Program SharedOp.Reply)) α) : Prop :=
  ∀ x, Echoes (StateT.run (ExceptT.run p) x) (StateT.run (ExceptT.run q) x)

variable {p q : ExceptT Fault (StateT σ (Program SharedOp.Reply)) α}

theorem echoes_pure (a : α) : EchoesIn (pure a : ExceptT Fault (StateT σ (Program SharedOp.Reply)) α) (pure a) :=
  fun _ => .done rfl

theorem echoes_throw (fault : Fault) :
    EchoesIn (throw fault : ExceptT Fault (StateT σ (Program SharedOp.Reply)) α) (throw fault) :=
  fun _ => .done rfl

theorem echoes_get : EchoesIn (get : ExceptT Fault (StateT σ (Program SharedOp.Reply)) σ) get := fun _ => .done rfl

theorem echoes_set (x : σ) : EchoesIn (set x : ExceptT Fault (StateT σ (Program SharedOp.Reply)) PUnit) (set x) :=
  fun _ => .done rfl

theorem echoes_modify (f : σ → σ) :
    EchoesIn (modify f : ExceptT Fault (StateT σ (Program SharedOp.Reply)) PUnit) (modify f) := fun _ => .done rfl

theorem EchoesIn.bind {f g : α → ExceptT Fault (StateT σ (Program SharedOp.Reply)) β} (h : EchoesIn p q)
    (rest : ∀ a, EchoesIn (f a) (g a)) : EchoesIn (p >>= f) (q >>= g) := by
  intro x
  refine (h x).bind ?_
  rintro ⟨r, y⟩
  cases r with
  | ok a => exact rest a y
  | error fault => exact .done rfl

/-- Procedures that only tell, and then others that heed nothing of it. -/
theorem EchoesIn.after {p : ExceptT Fault (StateT σ (Program SharedOp.Reply)) β}
    {q : ExceptT Fault (StateT σ (Program SharedOp.Reply)) γ} {ends : β → Prop} {ends' : γ → Prop}
    {f : β → ExceptT Fault (StateT σ (Program SharedOp.Reply)) α}
    {g : γ → ExceptT Fault (StateT σ (Program SharedOp.Reply)) α} (hp : Solo echo ends p) (hq : Solo echo ends' q)
    (rest : ∀ a b, ends a → ends' b → EchoesIn (f a) (g b)) : EchoesIn (p >>= f) (q >>= g) := by
  intro x
  have told : Coupled echo (fun _ (r : Except Fault β × σ) (r' : Except Fault γ × σ) =>
      (r.2 = x ∧ ∃ a, r.1 = .ok a ∧ ends a) ∧ r'.2 = x ∧ ∃ b, r'.1 = .ok b ∧ ends' b) ()
      (StateT.run (ExceptT.run p) x) (StateT.run (ExceptT.run q) x) :=
    Coupled.alone _ _ (hp x) (hq x) fun _ _ ended ended' => ⟨ended, ended'⟩
  refine told.bind ?_
  rintro _ ⟨r, y⟩ ⟨r', y'⟩ ⟨⟨sameState, a, outcome, ended⟩, sameState', b, outcome', ended'⟩
  cases sameState
  cases sameState'
  cases outcome
  cases outcome'
  exact rest a b ended ended' _

theorem echoes_solo {ends : α → Prop} (hp : Solo echo ends p) (hq : Solo echo ends q)
    (one : ∀ a b, ends a → ends b → a = b) : EchoesIn p q := by
  have ends : EchoesIn (p >>= pure) (q >>= pure) :=
    EchoesIn.after hp hq fun a b ended ended' => one a b ended ended' ▸ echoes_pure a
  rwa [bind_pure, bind_pure] at ends

/-- What is done aside of the runs on two units is done aside of an echo. -/
theorem Solo.echo {ends : α → Prop} (h : Solo (tandem .calling .calling) ends p) : Solo echo ends p := h

end

/-! ## Procedures of a context -/

section

variable {α : Type}

theorem echoes_shared {p q : SharedProcedure α} (h : Echoes (ExceptT.run p) (ExceptT.run q)) :
    EchoesIn (ContextProcedure.shared p) (ContextProcedure.shared q) :=
  fun c => Echoes.bind h fun r => echoes_done (r, c)

theorem echoes_sharedPerform {op : SharedOp} (matters : ¬ op.IsAside) :
    Echoes (ExceptT.run (SharedProcedure.perform op)) (ExceptT.run (SharedProcedure.perform op)) :=
  echoes_call matters echoes_done

theorem echoes_perform {op : SharedOp} (matters : ¬ op.IsAside) :
    EchoesIn (ContextProcedure.perform op) (ContextProcedure.perform op) :=
  echoes_shared (echoes_sharedPerform matters)

theorem echoes_contextLog (level : LogLevel) (message : String) :
    EchoesIn (ContextProcedure.log level message) (ContextProcedure.log level message) := by
  have logs : Solo echo (fun _ => True) (ContextProcedure.log level message) :=
    fun _ => meets_perform.2 ⟨(), trivial, fun _ replied => ⟨rfl, (), replied, trivial⟩⟩
  exact echoes_solo logs logs fun _ _ _ _ => rfl

theorem EchoesIn.attempt {p q : ContextProcedure α} (h : EchoesIn p q) : EchoesIn p.attempt q.attempt := by
  intro c
  refine (h c).bind ?_
  rintro ⟨r, c'⟩
  cases r with
  | ok a => exact echoes_done _
  | error fault => exact echoes_done _

theorem echoes_contextFail (reason : String) :
    EchoesIn (ContextProcedure.fail reason) (ContextProcedure.fail reason) :=
  (echoes_modify _).bind fun _ => echoes_contextLog _ _

theorem echoes_cleanUp : EchoesIn ContextProcedure.cleanUp ContextProcedure.cleanUp := by
  have clears : EchoesIn (modify fun c => { c with scratch := [] } : ContextProcedure Unit)
      (modify fun c => { c with scratch := [] }) := echoes_modify _
  unfold ContextProcedure.cleanUp
  refine echoes_get.bind fun c => (echoes_set _).bind fun _ => ?_
  split
  · rename_i session _
    split
    · have closing : EchoesIn (do
            if ← ContextProcedure.perform (.isCurrent session c.identity.unit) then
              ContextProcedure.perform (.closeSession c.identity.unit) : ContextProcedure Unit) (do
            if ← ContextProcedure.perform (.isCurrent session c.identity.unit) then
              ContextProcedure.perform (.closeSession c.identity.unit)) := by
        refine (echoes_perform id).bind fun current => ?_
        cases (current : Bool) with
        | true => exact echoes_perform id
        | false => exact echoes_pure _
      refine closing.attempt.bind fun closed => ?_
      cases closed with
      | ok _ => exact clears
      | error fault => exact (echoes_contextLog _ _).bind fun _ => clears
    · exact clears
  · exact clears

end

/-! ## Keywords -/

/-- Whatever is told and however it is answered, the procedure does the same and comes to the same. -/
def Heedless {α : Type} (p : KeywordProcedure α) : Prop := EchoesIn p.runIn p.runIn

def KeywordRegistry.Heedless (r : KeywordRegistry) : Prop :=
  ∀ name e, r.resolve? name = some e → ∀ id, KeywordSuite.Heedless (e.body id)

section

variable {α β : Type} {p : KeywordProcedure α}

theorem heedless_pure (a : α) : Heedless (pure a) := echoes_pure a

theorem Heedless.bind {f : α → KeywordProcedure β} (h : Heedless p) (rest : ∀ a, Heedless (f a)) :
    Heedless (p >>= f) := by
  unfold Heedless
  rw [KeywordProcedure.runIn_bind]
  exact EchoesIn.bind h rest

theorem Heedless.attempt (h : Heedless p) : Heedless (Procedure.attempt p) := by
  unfold Heedless
  rw [KeywordProcedure.runIn_attempt]
  exact EchoesIn.attempt h

theorem heedless_solo {ends : α → Prop} (h : KeywordSolo .calling .calling ends p)
    (one : ∀ a b, ends a → ends b → a = b) : Heedless p :=
  echoes_solo h.echo h.echo one

/-- Whatever a keyword does in its context, and every shared operation that matters. -/
theorem heedless_perform (op : KeywordOp) (matters : ∀ op', op = .shared op' → ¬ op'.IsAside) :
    Heedless (KeywordProcedure.perform op) := by
  unfold Heedless
  rw [KeywordProcedure.runIn_perform]
  cases op with
  | fail reason => exact echoes_contextFail reason
  | addInput | put | attach => exact echoes_modify _
  | input | scratch | attached | passed => exact echoes_get.bind fun _ => echoes_pure _
  | cleanUp => exact echoes_cleanUp
  | shared op => exact echoes_perform (matters op rfl)

theorem heedless_shared (op : SharedOp) (matters : ¬ op.IsAside) : Heedless (KeywordProcedure.shared op) :=
  heedless_perform _ fun _ same => KeywordOp.shared.inj same ▸ matters

theorem heedless_inner (op : KeywordOp) (inner : ∀ op', op ≠ .shared op') : Heedless (KeywordProcedure.perform op) :=
  heedless_perform op fun op' same => absurd same (inner op')

theorem heedless_log (level : LogLevel) (message : String) : Heedless (KeywordProcedure.log level message) :=
  echoes_contextLog level message

theorem heedless_ofExcept (r : Except Fault α) : Heedless (KeywordProcedure.ofExcept r) := by
  cases r with
  | ok a => exact heedless_pure a
  | error fault => exact echoes_throw fault

end

/-! ## The keywords that drive the browser -/

namespace BrowserKeyword

variable {id : CaseIdentity}

theorem heedless_session : Heedless (session id) := by
  have asks : Heedless (do
      let session ← KeywordProcedure.shared (.currentSession id.unit)
      KeywordProcedure.perform (.attach (some session))
      return session : KeywordProcedure SessionId) :=
    (heedless_shared (.currentSession id.unit) not_false).bind fun _ => (heedless_inner _ (by simp)).bind fun _ => heedless_pure _
  refine (heedless_inner .attached (by simp)).bind fun attached => ?_
  cases attached with
  | none => exact asks
  | some session =>
    refine (heedless_shared (.isCurrent session id.unit) not_false).bind fun current => ?_
    cases (current : Bool) with
    | true => exact heedless_pure session
    | false => exact asks

theorem heedless_browse (call : SessionCall) : Heedless (browse id call) :=
  heedless_session.bind fun n => heedless_shared (.browse n call) not_false

theorem Assembled.heedless {α : Type} {p : KeywordProcedure α} (h : Assembled id p) : Heedless p := by
  induction h with
  | pure a => exact heedless_pure a
  | ofExcept _ => exact heedless_ofExcept _
  | bind _ _ ihp ihf => exact ihp.bind ihf
  | attempt _ ih => exact ih.attempt
  | log level message => exact heedless_log level message
  | @report _ call _ a f _ told failed =>
    -- whatever the report answers, there is one value to go on with
    have one : KeywordSolo .calling .calling (· = a) ((KeywordProcedure.shared (.report call)).attempt >>= f) :=
      solo_reportThen rfl told failed
    exact heedless_solo one fun _ _ ended ended' => ended.trans ended'.symm
  | inner op inner => exact heedless_inner op inner
  | openSession config => exact heedless_shared _ not_false
  | closeSession => exact heedless_shared _ not_false
  | capture label => exact heedless_shared _ not_false
  | sleep seconds => exact heedless_shared _ not_false
  | browse _ => exact heedless_browse _

theorem heedless_of_isBuiltIn {body : KeywordBody} (h : IsBuiltIn body) (id : CaseIdentity) :
    Heedless (body id) :=
  (assembled_of_isBuiltIn h id).heedless

end BrowserKeyword

end KeywordSuite
