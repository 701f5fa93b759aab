import KeywordSuite.Proofs.Procedures
import KeywordSuite.Suite.Surroundings

/-!
# Runs of actions

What an action comes to, part by part, and the primitive actions of a session registry.
-/

namespace KeywordSuite

def faultOf {α : Type} : Except Fault α → Option Fault
  | .ok _ => none
  | .error fault => some fault

/-- An outcome that is a value or a fault of a kind. -/
def Faulty {α : Type} (P : Fault → Prop) (r : Except Fault α) : Prop := ∀ fault, r = .error fault → P fault

section

variable {α β : Type} {P : Fault → Prop}

theorem faulty_ok (a : α) : Faulty P (.ok a : Except Fault α) := fun _ h => by cases h

theorem faulty_error {fault : Fault} (h : P fault) : Faulty P (.error fault : Except Fault α) := by
  intro other ended
  cases ended
  exact h

theorem Faulty.bind {r : Except Fault α} {f : α → Except Fault β} (h : Faulty P r) (rest : ∀ a, Faulty P (f a)) :
    Faulty P (r >>= f) := by
  cases r with
  | ok a => exact rest a
  | error fault => exact faulty_error (h fault rfl)

end

/-- An outcome that is no interruption by the user. -/
def Ordinary {α : Type} (r : Except Fault α) : Prop := ∀ fault, r = .error fault → fault.isInterrupt = false

theorem ordinary_ok {α : Type} (a : α) : Ordinary (.ok a : Except Fault α) := faulty_ok a

theorem ordinary_bind {α β : Type} {r : Except Fault α} {f : α → Except Fault β} (h : Ordinary r)
    (rest : ∀ a, Ordinary (f a)) : Ordinary (r >>= f) :=
  Faulty.bind h rest

theorem ordinary_mapError {α : Type} (r : Except TextFault α) : Ordinary (r.mapError Fault.ofTextFault) := by
  intro fault h
  cases r with
  | ok a => cases h
  | error t => cases h; cases t <;> rfl

theorem settled_of_ordinary {α : Type} {r : Except Fault α} (h : Ordinary r) : settled r = .ok r := by
  cases r with
  | ok a => rfl
  | error fault => simp [settled, h fault rfl]

theorem settled_cases {α : Type} (r : Except Fault α) :
    Ordinary r ∧ settled r = .ok r ∨ ∃ fault, r = .error fault ∧ settled r = .error fault := by
  cases r with
  | ok a => exact .inl ⟨ordinary_ok a, rfl⟩
  | error fault =>
    cases h : fault.isInterrupt
    · exact .inl ⟨faulty_error h, settled_of_ordinary (faulty_error h)⟩
    · exact .inr ⟨fault, rfl, by simp [settled, h]⟩

namespace Act

variable {σ α β : Type}

theorem run_pure (a : α) (s : σ) : (pure a : Act σ α).run s = (.ok a, s) := rfl

theorem run_throw (fault : Fault) (s : σ) : (throw fault : Act σ α).run s = (.error fault, s) := rfl

theorem run_get (s : σ) : (get : Act σ σ).run s = (.ok s, s) := rfl

theorem run_set (s' s : σ) : (set s' : Act σ PUnit).run s = (.ok ⟨⟩, s') := rfl

theorem run_modify (f : σ → σ) (s : σ) : (modify f : Act σ PUnit).run s = (.ok ⟨⟩, f s) := rfl

theorem run_bind (p : Act σ α) (f : α → Act σ β) (s : σ) :
    Act.run (p >>= f) s =
      match p.run s with
      | (.ok a, s) => (f a).run s
      | (.error fault, s) => (.error fault, s) := by
  have run_cont : Act.run (p >>= f) s = ExceptT.bindCont f (p.run s).1 (p.run s).2 := rfl
  rw [run_cont]
  cases p.run s with
  | mk r s => cases r <;> rfl

theorem run_bind_of_ok {p : Act σ α} {f : α → Act σ β} {s s' : σ} {a : α} (h : p.run s = (.ok a, s')) :
    Act.run (p >>= f) s = (f a).run s' := by
  rw [run_bind, h]

/-- A loop whose steps all work comes to its end, with whatever each step keeps of what is left. -/
theorem run_forIn (step : α → Act σ Unit) (I : List α → σ → Prop)
    (next : ∀ a rest s, I (a :: rest) s → ∃ s', (step a).run s = (.ok (), s') ∧ I rest s') :
    ∀ (l : List α) (s : σ), I l s → ∃ s', (forIn l PUnit.unit fun a _ => do
      step a
      pure (ForInStep.yield PUnit.unit) : Act σ PUnit).run s = (.ok (), s') ∧ I [] s'
  | [], s, h => ⟨s, rfl, h⟩
  | a :: rest, s, h => by
    obtain ⟨s₁, first, h⟩ := next a rest s h
    obtain ⟨s', others, h⟩ := run_forIn step I next rest s₁ h
    refine ⟨s', ?_, h⟩
    rw [List.forIn_cons, Act.run_bind, Act.run_bind, first]
    exact others

theorem run_bind_of_error {p : Act σ α} {f : α → Act σ β} {s : σ} {fault : Fault} (h : (p.run s).1 = .error fault) :
    (Act.run (p >>= f) s).1 = .error fault := by
  rw [run_bind]
  rcases hp : p.run s with ⟨_ | _, s'⟩ <;> rw [hp] at h <;> cases h
  rfl

theorem exists_of_run_bind {p : Act σ α} {f : α → Act σ β} {s s' : σ} {b : β}
    (h : Act.run (p >>= f) s = (.ok b, s')) : ∃ a s₁, p.run s = (.ok a, s₁) ∧ (f a).run s₁ = (.ok b, s') := by
  rw [run_bind] at h
  cases hp : p.run s with
  | mk r s₁ =>
    rw [hp] at h
    cases r with
    | ok a => exact ⟨a, s₁, rfl, h⟩
    | error fault => cases h

theorem run_ofExcept (r : Except Fault α) (s : σ) : (ofExcept r).run s = (r, s) := by
  cases r <;> rfl

theorem run_outcome (p : Act σ α) (s : σ) : p.outcome.run s = (.ok (p.run s).1, (p.run s).2) := rfl

theorem run_attempt (p : Act σ α) (s : σ) : p.attempt.run s = (settled (p.run s).1, (p.run s).2) := by
  unfold attempt
  rw [run_bind, run_outcome]
  cases (p.run s).1 with
  | ok a => rfl
  | error fault => cases h : fault.isInterrupt <;> simp [settled, h] <;> rfl

/-! ## The faults of an action -/

/-- Whatever fault an action ends in, it is of a kind. -/
def Raises (P : Fault → Prop) (p : Act σ α) : Prop := ∀ s, Faulty P (p.run s).1

variable {P : Fault → Prop}

theorem raises_pure (a : α) : (pure a : Act σ α).Raises P := fun _ => faulty_ok a

theorem raises_get : (get : Act σ σ).Raises P := fun _ => faulty_ok _

theorem Raises.bind {p : Act σ α} {f : α → Act σ β} (hp : p.Raises P) (hf : ∀ a, (f a).Raises P) :
    Raises P (p >>= f) := by
  intro s
  have first := hp s
  rw [run_bind]
  cases hr : p.run s with
  | mk r s' =>
    rw [hr] at first
    cases r with
    | ok a => exact hf a s'
    | error fault => exact faulty_error (first fault rfl)

/-! ## Actions that the user never interrupts -/

/-- Whatever an action ends in, it is no interruption by the user. -/
def Ordinarily (p : Act σ α) : Prop := ∀ s, Ordinary (p.run s).1

theorem ordinarily_pure (a : α) : (pure a : Act σ α).Ordinarily := fun _ => ordinary_ok a

theorem ordinarily_throw {fault : Fault} (h : fault.isInterrupt = false) :
    (throw fault : Act σ α).Ordinarily := by
  intro s other hs
  cases hs
  exact h

theorem Ordinarily.bind {p : Act σ α} {f : α → Act σ β} (hp : p.Ordinarily) (hf : ∀ a, (f a).Ordinarily) :
    Ordinarily (p >>= f) :=
  Raises.bind hp hf

theorem Ordinarily.attempt {p : Act σ α} (hp : p.Ordinarily) : p.attempt.Ordinarily := by
  intro s
  rw [run_attempt, settled_of_ordinary (hp s)]
  exact ordinary_ok _

theorem Ordinarily.zoom {ω : Type} {p : Act ω α} (hp : p.Ordinarily) : (World.zoom p).Ordinarily :=
  fun w => hp w.outer

end Act

section

variable {ω α : Type} (w : World ω)

theorem World.run_zoom (act : Act ω α) :
    (World.zoom act).run w = ((act.run w.outer).1, { w with outer := (act.run w.outer).2 }) := rfl

theorem World.run_zoom_of_ok {act : Act ω α} {a : α} {outer : ω} (h : act.run w.outer = (.ok a, outer)) :
    (World.zoom act).run w = (.ok a, { w with outer }) := by
  rw [World.run_zoom, h]

theorem World.run_zoom_of_error {act : Act ω α} {fault : Fault} (h : (act.run w.outer).1 = .error fault) :
    ((World.zoom act).run w).1 = .error fault := h

theorem World.run_modifySessions (f : SessionTable → SessionTable) :
    (World.modifySessions f).run w = (.ok (), { w with sessions := f w.sessions }) := rfl

theorem SessionBackend.run_note (b : SessionBackend ω) (level : LogLevel) (message : String) :
    (b.note level message).run w = (.ok (), { w with outer := b.log level message w.outer }) := rfl

theorem SessionBackend.run_liveSession (unit : UnitId) :
    (liveSession? unit).run w = (.ok (w.sessions.live? unit), w) := rfl

end

end KeywordSuite
