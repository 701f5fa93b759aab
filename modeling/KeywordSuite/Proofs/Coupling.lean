import KeywordSuite.Proofs.Alike
import Mathlib.Order.Basic

/-!
# Programs side by side

A coupling says which operations two programs may do together and what they then learn, and which
operations either may do alone. Coupled programs do nothing else, and end in related values. What is
learnt is kept in a stage that only grows.
-/

namespace KeywordSuite

structure Coupling {Op : Type} (Reply : Op → Type) (κ : Type) where
  /-- Operations that either program may do alone. -/
  aside : Op → Prop
  /-- What such an operation may answer. -/
  replies : (op : Op) → Except Fault (Reply op) → Prop
  /-- Operations that are done together at a stage, and which answers lead to which stage. -/
  together : κ → (op op' : Op) → (Except Fault (Reply op) → Except Fault (Reply op') → κ → Prop) → Prop

section

variable {Op : Type} {Reply : Op → Type} {κ : Type} {C : Coupling Reply κ} {α β γ δ : Type}

/-- The protocol of a program that does nothing together with another. -/
def Coupling.alone (C : Coupling Reply κ) : Protocol Reply Unit where
  begins _ op _ := C.aside op
  answers _ op reply := C.replies op reply
  next _ _ _ := ()

inductive Coupled (C : Coupling Reply κ) {α β : Type} (post : κ → α → β → Prop) :
    κ → Program Reply α → Program Reply β → Prop
  | done {k : κ} {a : α} {b : β} : post k a b → Coupled C post k (.done a) (.done b)
  | left {k : κ} {op : Op} {resume : Except Fault (Reply op) → Program Reply α} {q : Program Reply β} :
      C.aside op → (∀ reply, C.replies op reply → Coupled C post k (resume reply) q) →
      Coupled C post k (.call op resume) q
  | right {k : κ} {op : Op} {p : Program Reply α} {resume : Except Fault (Reply op) → Program Reply β} :
      C.aside op → (∀ reply, C.replies op reply → Coupled C post k p (resume reply)) →
      Coupled C post k p (.call op resume)
  | both {k : κ} {op op' : Op} {answers : Except Fault (Reply op) → Except Fault (Reply op') → κ → Prop}
      {resume : Except Fault (Reply op) → Program Reply α}
      {resume' : Except Fault (Reply op') → Program Reply β} :
      C.together k op op' answers →
      (∀ reply reply' k', answers reply reply' k' → Coupled C post k' (resume reply) (resume' reply')) →
      Coupled C post k (.call op resume) (.call op' resume')

namespace Coupled

variable {mid : κ → α → β → Prop} {post : κ → γ → δ → Prop} {k : κ} {p : Program Reply α} {q : Program Reply β}

theorem bind {f : α → Program Reply γ} {g : β → Program Reply δ} (h : Coupled C mid k p q)
    (rest : ∀ k' a b, mid k' a b → Coupled C post k' (f a) (g b)) : Coupled C post k (p.bind f) (q.bind g) := by
  induction h with
  | done related => exact rest _ _ _ related
  | left aside _ ih => exact .left aside ih
  | right aside _ ih => exact .right aside ih
  | both together _ ih => exact .both together ih

theorem mono {mid' : κ → α → β → Prop} (h : Coupled C mid k p q)
    (weaker : ∀ k' a b, mid k' a b → mid' k' a b) : Coupled C mid' k p q := by
  induction h with
  | done related => exact .done (weaker _ _ _ related)
  | left aside _ ih => exact .left aside ih
  | right aside _ ih => exact .right aside ih
  | both together _ ih => exact .both together ih

/-- Programs that do nothing together are coupled in whatever they end in. -/
theorem alone {ends : α → Prop} {ends' : β → Prop} (q : Program Reply β) :
    ∀ p : Program Reply α, p.Keeps C.alone () (fun a _ => ends a) → q.Keeps C.alone () (fun b _ => ends' b) →
      (∀ a b, ends a → ends' b → mid k a b) → Coupled C mid k p q
  | .call _ resume, ⟨_, aside, kept⟩, kept', related =>
    .left aside fun reply said => alone q (resume reply) (kept reply said) kept' related
  | .done a, ended, kept', related => by
    induction q with
    | done b => exact .done (related a b ended kept')
    | call op resume ih =>
      obtain ⟨_, aside, kept'⟩ := kept'
      exact .right aside fun reply said => ih reply (kept' reply said)

end Coupled

/-! ## Procedures that do nothing together -/

/-- A procedure does nothing together with another and comes to a value. -/
def Alone (C : Coupling Reply κ) (p : Procedure Reply α) : Prop :=
  (ExceptT.run p).Keeps C.alone () fun r _ => ∃ a, r = .ok a

section

variable {σ : Type} {ends : α → Prop} {ends' : γ → Prop} {p : ExceptT Fault (StateT σ (Program Reply)) α}

/-- A procedure does nothing together with another, keeps its state and comes to a value. -/
def Solo (C : Coupling Reply κ) (ends : α → Prop) (p : ExceptT Fault (StateT σ (Program Reply)) α) : Prop :=
  ∀ x, Meets C.alone p x () fun r y _ => y = x ∧ ∃ a, r = .ok a ∧ ends a

theorem solo_pure {a : α} (h : ends a) :
    Solo C ends (pure a : ExceptT Fault (StateT σ (Program Reply)) α) := fun _ => ⟨rfl, a, rfl, h⟩

theorem Solo.bind {f : α → ExceptT Fault (StateT σ (Program Reply)) γ} (hp : Solo C ends p)
    (hf : ∀ a, ends a → Solo C ends' (f a)) : Solo C ends' (p >>= f) := by
  intro x
  rw [meets_bind]
  refine (hp x).mono ?_
  rintro _ _ _ ⟨rfl, a, rfl, ended⟩
  exact hf a ended _

end

/-! ## Procedures without a state -/

variable [Preorder κ]

/-- From a stage on, two procedures are coupled and come to matched outcomes. -/
def Tied (C : Coupling Reply κ) (fails : Prop) (R : κ → α → β → Prop) (k : κ) (p : Procedure Reply α)
    (q : Procedure Reply β) : Prop :=
  ∀ k₁, k ≤ k₁ →
    Coupled C (fun k₂ r r' => k₁ ≤ k₂ ∧ Matched fails (R k₂) r r') k₁ (ExceptT.run p) (ExceptT.run q)

section

variable {fails : Prop} {R : κ → α → β → Prop} {S : κ → γ → δ → Prop} {k : κ} {p : Procedure Reply α}
  {q : Procedure Reply β}

theorem tied_pure {a : α} {b : β} (h : ∀ k₁, k ≤ k₁ → R k₁ a b) :
    Tied C fails R k (pure a : Procedure Reply α) (pure b : Procedure Reply β) :=
  fun k₁ later => .done ⟨le_refl k₁, .ok (h k₁ later)⟩

theorem Tied.bind {f : α → Procedure Reply γ} {g : β → Procedure Reply δ} (h : Tied C fails R k p q)
    (rest : ∀ k₁ a b, k ≤ k₁ → R k₁ a b → Tied C fails S k₁ (f a) (g b)) :
    Tied C fails S k (p >>= f) (q >>= g) := by
  intro k₁ later
  refine (h k₁ later).bind ?_
  rintro k₂ r r' ⟨grown, matched⟩
  cases matched with
  | error may alike => exact .done ⟨grown, .error may alike⟩
  | ok related =>
    refine (rest k₂ _ _ (le_trans later grown) related k₂ (le_refl k₂)).mono ?_
    exact fun k₃ _ _ ended => ⟨le_trans grown ended.1, ended.2⟩

theorem Tied.attempt (h : Tied C fails R k p q) :
    Tied C False (fun k₁ => Matched fails (R k₁)) k p.attempt q.attempt := by
  intro k₁ later
  refine (h k₁ later).bind ?_
  rintro k₂ r r' ⟨grown, matched⟩
  cases matched with
  | ok related => exact .done ⟨grown, .ok (.ok related)⟩
  | error may alike =>
    dsimp only
    rw [alike.ordinary, alike.ordinary']
    exact .done ⟨grown, .ok (.error may alike)⟩

theorem tied_alone {R : κ → α → β → Prop} (hp : Alone C p) (hq : Alone C q)
    (related : ∀ k₁ a b, k ≤ k₁ → R k₁ a b) : Tied C fails R k p q := by
  intro k₁ later
  refine Coupled.alone _ _ hp hq ?_
  rintro _ _ ⟨a, rfl⟩ ⟨b, rfl⟩
  exact ⟨le_refl k₁, .ok (related k₁ a b later)⟩

end

/-! ## Procedures over a state -/

/-- From a stage on, in related states, two procedures are coupled and come to matched outcomes. -/
def Twin {σ : Type} (C : Coupling Reply κ) (I : κ → σ → σ → Prop) (fails : Prop) (R : κ → α → β → Prop) (k : κ)
    (p : ExceptT Fault (StateT σ (Program Reply)) α) (q : ExceptT Fault (StateT σ (Program Reply)) β) : Prop :=
  ∀ k₁ x y, k ≤ k₁ → I k₁ x y →
    Coupled C (fun k₂ r r' => k₁ ≤ k₂ ∧ Matched fails (R k₂) r.1 r'.1 ∧ I k₂ r.2 r'.2) k₁
      (StateT.run (ExceptT.run p) x) (StateT.run (ExceptT.run q) y)

section

variable {σ : Type} {I : κ → σ → σ → Prop} {fails : Prop} {R : κ → α → β → Prop} {S : κ → γ → δ → Prop} {k : κ}
  {p : ExceptT Fault (StateT σ (Program Reply)) α} {q : ExceptT Fault (StateT σ (Program Reply)) β}

theorem twin_pure {a : α} {b : β} (h : ∀ k₁, k ≤ k₁ → R k₁ a b) :
    Twin C I fails R k (pure a : ExceptT Fault (StateT σ (Program Reply)) α) (pure b) :=
  fun k₁ _ _ later states => .done ⟨le_refl k₁, .ok (h k₁ later), states⟩

theorem twin_throw {fault fault' : Fault} (may : fails) (alike : fault.Alike fault') :
    Twin C I fails R k (throw fault : ExceptT Fault (StateT σ (Program Reply)) α) (throw fault') :=
  fun k₁ _ _ _ states => .done ⟨le_refl k₁, .error may alike, states⟩

theorem twin_get : Twin C I fails I k (get : ExceptT Fault (StateT σ (Program Reply)) σ) get :=
  fun k₁ _ _ _ states => .done ⟨le_refl k₁, .ok states, states⟩

theorem twin_set {R : κ → PUnit → PUnit → Prop} {x y : σ} (h : ∀ k₁, k ≤ k₁ → I k₁ x y ∧ R k₁ ⟨⟩ ⟨⟩) :
    Twin C I fails R k (set x : ExceptT Fault (StateT σ (Program Reply)) PUnit) (set y) :=
  fun k₁ _ _ later _ => .done ⟨le_refl k₁, .ok (h k₁ later).2, (h k₁ later).1⟩

theorem twin_modify {R : κ → PUnit → PUnit → Prop} {f g : σ → σ}
    (h : ∀ k₁ x y, k ≤ k₁ → I k₁ x y → I k₁ (f x) (g y) ∧ R k₁ ⟨⟩ ⟨⟩) :
    Twin C I fails R k (modify f : ExceptT Fault (StateT σ (Program Reply)) PUnit) (modify g) :=
  fun k₁ x y later states => .done ⟨le_refl k₁, .ok (h k₁ x y later states).2, (h k₁ x y later states).1⟩

theorem Twin.mono {fails' : Prop} {R' : κ → α → β → Prop} (h : Twin C I fails R k p q) (may : fails → fails')
    (weaker : ∀ k₁ a b, k ≤ k₁ → R k₁ a b → R' k₁ a b) : Twin C I fails' R' k p q := by
  intro k₁ x y later states
  refine (h k₁ x y later states).mono ?_
  rintro k₂ r r' ⟨grown, matched, states'⟩
  exact ⟨grown, (matched.may may).mono fun a b => weaker k₂ a b (le_trans later grown), states'⟩

theorem Twin.never (h : Twin C I False R k p q) : Twin C I fails R k p q :=
  h.mono False.elim fun _ _ _ _ related => related

theorem Twin.bind {f : α → ExceptT Fault (StateT σ (Program Reply)) γ}
    {g : β → ExceptT Fault (StateT σ (Program Reply)) δ} (h : Twin C I fails R k p q)
    (rest : ∀ k₁ a b, k ≤ k₁ → R k₁ a b → Twin C I fails S k₁ (f a) (g b)) :
    Twin C I fails S k (p >>= f) (q >>= g) := by
  intro k₁ x y later states
  refine (h k₁ x y later states).bind ?_
  rintro k₂ ⟨r, x'⟩ ⟨r', y'⟩ ⟨grown, matched, states'⟩
  dsimp only at matched
  cases matched with
  | error may alike => exact .done ⟨grown, .error may alike, states'⟩
  | ok related =>
    refine (rest k₂ _ _ (le_trans later grown) related k₂ x' y' (le_refl k₂) states').mono ?_
    exact fun k₃ _ _ ended => ⟨le_trans grown ended.1, ended.2⟩

theorem twin_solo {ends : α → Prop} {ends' : β → Prop} (hp : Solo C ends p) (hq : Solo C ends' q)
    (related : ∀ k₁ a b, k ≤ k₁ → ends a → ends' b → R k₁ a b) : Twin C I fails R k p q := by
  intro k₁ x y later states
  refine Coupled.alone _ _ (hp x) (hq y) ?_
  rintro ⟨r, x'⟩ ⟨r', y'⟩ ⟨sameState, a, outcome, ended⟩ ⟨sameState', b, outcome', ended'⟩
  cases sameState
  cases sameState'
  cases outcome
  cases outcome'
  exact ⟨le_refl k₁, .ok (related k₁ a b later ended ended'), states⟩

end

end

end KeywordSuite
