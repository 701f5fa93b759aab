import KeywordSuite.Program

/-!
# Programs that keep to a protocol

A protocol says which operations may be begun at a stage, what they may answer, and to which stage
an answer leads. Whether a program keeps to a protocol is read off its tree, so it holds whatever
else happens between its operations. Keeping to the protocol of a handler (`keeps_handled`) is a
statement about the one run that the handler gives.
-/

namespace KeywordSuite

structure Protocol {Op : Type} (Reply : Op → Type) (γ : Type) where
  /-- An operation may be begun at a stage, which takes the program to another. -/
  begins : γ → Op → γ → Prop
  /-- What an operation that was begun may answer. -/
  answers : γ → (op : Op) → Except Fault (Reply op) → Prop
  /-- The stage after an answer. -/
  next : γ → (op : Op) → Except Fault (Reply op) → γ

namespace Program

variable {Op : Type} {Reply : Op → Type} {α β γ σ : Type}

theorem bind_done (p : Program Reply α) : p.bind .done = p := by
  induction p with
  | done a => rfl
  | call op resume ih => exact congrArg (Program.call op) (funext ih)

theorem bind_assoc {δ : Type} (p : Program Reply α) (f : α → Program Reply β) (g : β → Program Reply δ) :
    (p.bind f).bind g = p.bind fun a => (f a).bind g := by
  induction p with
  | done a => rfl
  | call op resume ih => exact congrArg (Program.call op) (funext ih)

instance : LawfulMonad (Program Reply) :=
  LawfulMonad.mk' _ bind_done (fun _ _ => rfl) bind_assoc

theorem run_bind (handle : (op : Op) → Act σ (Reply op)) (p : Program Reply α) (f : α → Program Reply β) :
    ∀ s, (p.bind f).run handle s = (f (p.run handle s).1).run handle (p.run handle s).2 := by
  induction p with
  | done a => intro s; rfl
  | call op resume ih => intro s; exact ih _ _

/-- From a stage on, a program keeps to a protocol and ends in a value and a stage with a property. -/
def Keeps (P : Protocol Reply γ) : Program Reply α → γ → (α → γ → Prop) → Prop
  | .done a, g, post => post a g
  | .call op resume, g, post =>
    ∃ h, P.begins g op h ∧
      ∀ reply, P.answers h op reply → (resume reply).Keeps P (P.next h op reply) post

variable {P : Protocol Reply γ}

theorem keeps_bind (p : Program Reply α) (f : α → Program Reply β) (post : β → γ → Prop) :
    ∀ g, (p.bind f).Keeps P g post ↔ p.Keeps P g fun a h => (f a).Keeps P h post := by
  induction p with
  | done a => intro g; rfl
  | call op resume ih => intro g; simp only [Program.bind, Keeps, ih]

theorem Keeps.mono {post post' : α → γ → Prop} (h : ∀ a g, post a g → post' a g) :
    ∀ {p : Program Reply α} {g : γ}, p.Keeps P g post → p.Keeps P g post'
  | .done _, _, hp => h _ _ hp
  | .call _ _, _, ⟨k, hk, hp⟩ => ⟨k, hk, fun reply ha => (hp reply ha).mono h⟩

/-- The protocol of a handler: a stage is a state, and an operation answers what it is answered there. -/
def handled (handle : (op : Op) → Act σ (Reply op)) : Protocol Reply σ where
  begins s _ s' := s' = s
  answers s op reply := reply = ((handle op).run s).1
  next s op _ := ((handle op).run s).2

theorem keeps_handled (handle : (op : Op) → Act σ (Reply op)) (p : Program Reply α)
    (post : α → σ → Prop) :
    ∀ s, p.Keeps (handled handle) s post ↔ post (p.run handle s).1 (p.run handle s).2 := by
  induction p with
  | done a => intro s; rfl
  | call op resume ih =>
    intro s
    simp only [Keeps, handled, exists_eq_left, forall_eq]
    exact ih _ _

end Program

/-! ## Programs of one kind of operation -/

/-- Whatever the operations of a program are answered, they have a property. -/
def Program.Only {Op : Type} {Reply : Op → Type} {α : Type} (may : Op → Prop) : Program Reply α → Prop
  | .done _ => True
  | .call op resume => may op ∧ ∀ reply, (resume reply).Only may

theorem Program.Only.bind {Op : Type} {Reply : Op → Type} {α β : Type} {may : Op → Prop} {f : α → Program Reply β}
    (hf : ∀ a, (f a).Only may) : ∀ {p : Program Reply α}, p.Only may → (p.bind f).Only may
  | .done a, _ => hf a
  | .call _ _, ⟨first, rest⟩ => ⟨first, fun reply => Only.bind hf (rest reply)⟩

theorem Program.Only.mono {Op : Type} {Reply : Op → Type} {α : Type} {may may' : Op → Prop}
    (weaker : ∀ op, may op → may' op) : ∀ {p : Program Reply α}, p.Only may → p.Only may'
  | .done _, _ => trivial
  | .call op _, ⟨first, rest⟩ => ⟨weaker op first, fun reply => (rest reply).mono weaker⟩

namespace Procedure

variable {Op : Type} {Reply : Op → Type} {α β : Type} {may : Op → Prop} {p : Procedure Reply α}

/-- Whatever the operations of a procedure are answered, they have a property. -/
def Only (may : Op → Prop) (p : Procedure Reply α) : Prop := (ExceptT.run p).Only may

theorem only_pure (a : α) : Only may (pure a : Procedure Reply α) := trivial

theorem only_perform {op : Op} (here : may op) : Only may (perform op : Procedure Reply (Reply op)) :=
  ⟨here, fun _ => trivial⟩

theorem Only.bind {f : α → Procedure Reply β} (first : Only may p) (rest : ∀ a, Only may (f a)) : Only may (p >>= f) := by
  refine Program.Only.bind (fun r => ?_) first
  cases r with
  | ok a => exact rest a
  | error fault => exact trivial

theorem Only.attempt (h : Only may p) : Only may p.attempt := by
  refine Program.Only.bind (fun r => ?_) h
  cases r <;> exact trivial

theorem Only.outcome (h : Only may p) : Only may p.outcome :=
  Program.Only.bind (fun r => only_pure r) h

end Procedure

/-! ## Procedures over a state -/

section

variable {Op : Type} {Reply : Op → Type} {α β γ σ : Type} {P : Protocol Reply γ}

/-- From a state and a stage on, a procedure keeps to a protocol and ends with a property. -/
def Meets (P : Protocol Reply γ) (p : ExceptT Fault (StateT σ (Program Reply)) α) (x : σ) (g : γ)
    (post : Except Fault α → σ → γ → Prop) : Prop :=
  (StateT.run (ExceptT.run p) x).Keeps P g fun r h => post r.1 r.2 h

variable {post post' : Except Fault α → σ → γ → Prop} {x : σ} {g : γ}

theorem Meets.mono {p : ExceptT Fault (StateT σ (Program Reply)) α} (hp : Meets P p x g post)
    (h : ∀ r y k, post r y k → post' r y k) : Meets P p x g post' :=
  Program.Keeps.mono (fun r k hr => h r.1 r.2 k hr) hp

theorem meets_pure (a : α) :
    Meets P (pure a : ExceptT Fault (StateT σ (Program Reply)) α) x g post ↔ post (.ok a) x g := Iff.rfl

theorem meets_bind (p : ExceptT Fault (StateT σ (Program Reply)) α)
    (f : α → ExceptT Fault (StateT σ (Program Reply)) β) (post : Except Fault β → σ → γ → Prop) :
    Meets P (p >>= f) x g post ↔
      Meets P p x g fun r y h =>
        match r with
        | .ok a => Meets P (f a) y h post
        | .error fault => post (.error fault) y h := by
  refine (Program.keeps_bind (StateT.run (ExceptT.run p) x) _ _ g).trans ?_
  refine ⟨Program.Keeps.mono ?_, Program.Keeps.mono ?_⟩ <;>
    · rintro ⟨_ | _, _⟩ _ h <;> exact h

theorem meets_get {post : Except Fault σ → σ → γ → Prop} :
    Meets P (get : ExceptT Fault (StateT σ (Program Reply)) σ) x g post ↔ post (.ok x) x g := Iff.rfl

theorem meets_set {post : Except Fault PUnit → σ → γ → Prop} (y : σ) :
    Meets P (set y : ExceptT Fault (StateT σ (Program Reply)) PUnit) x g post ↔
      post (.ok ⟨⟩) y g := Iff.rfl

theorem meets_modify {post : Except Fault PUnit → σ → γ → Prop} (f : σ → σ) :
    Meets P (modify f : ExceptT Fault (StateT σ (Program Reply)) PUnit) x g post ↔
      post (.ok ⟨⟩) (f x) g := Iff.rfl

end

end KeywordSuite
