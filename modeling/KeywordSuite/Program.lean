import KeywordSuite.Fault.Basic

/-! # Programs and actions

A program is a tree of operations, each with every way to go on from its reply. It is run by a
handler that says what an operation does to a state. Because a program is data, it may also be run
one operation at a time beside others.
-/

namespace KeywordSuite

/-- An action on a state that may end in a fault; the state it leaves is kept either way. -/
abbrev Act (σ α : Type) := ExceptT Fault (StateM σ) α

namespace Act

variable {σ τ α : Type}

def run (act : Act σ α) (s : σ) : Except Fault α × σ := StateT.run (ExceptT.run act) s

def make (f : σ → Except Fault α × σ) : Act σ α := ExceptT.mk fun s => f s

def outcome (act : Act σ α) : Act σ (Except Fault α) :=
  make fun s => let (r, s) := act.run s; (.ok r, s)

/-- The outcome of an action as a value, unless the user interrupted it. -/
def attempt (act : Act σ α) : Act σ (Except Fault α) := do
  match ← act.outcome with
  | .ok a => return .ok a
  | .error fault => if fault.isInterrupt then throw fault else return .error fault

def ofExcept : Except Fault α → Act σ α
  | .ok a => pure a
  | .error fault => throw fault

def zoom (view : σ → τ) (put : τ → σ → σ) (act : Act τ α) : Act σ α :=
  make fun s => let (r, t) := act.run (view s); (r, put t s)

end Act

/-- A part of a state that can be read and replaced. -/
structure Place (σ τ : Type) where
  get : σ → τ
  set : τ → σ → σ

/-- A tree of operations that ends in a value. -/
inductive Program {Op : Type} (Reply : Op → Type) (α : Type)
  | done (value : α)
  | call (op : Op) (resume : Except Fault (Reply op) → Program Reply α)

namespace Program

variable {Op : Type} {Reply : Op → Type} {α β σ : Type}

def bind : Program Reply α → (α → Program Reply β) → Program Reply β
  | .done a, f => f a
  | .call op resume, f => .call op fun reply => (resume reply).bind f

instance : Monad (Program Reply) where
  pure := .done
  bind := Program.bind

/-- One operation, with its reply as the outcome. -/
def request (op : Op) : Program Reply (Except Fault (Reply op)) := .call op .done

/-- Runs a program: each operation is handled in turn, and a fault goes back to the program. -/
def run (handle : (op : Op) → Act σ (Reply op)) : Program Reply α → σ → α × σ
  | .done a, s => (a, s)
  | .call op resume, s =>
    let (reply, s) := (handle op).run s
    (resume reply).run handle s

end Program

/-- A program whose faults stop it, unless a step of it recovers from them. -/
abbrev Procedure {Op : Type} (Reply : Op → Type) (α : Type) := ExceptT Fault (Program Reply) α

namespace Procedure

variable {Op : Type} {Reply : Op → Type} {α σ : Type}

/-- One operation; its fault stops the procedure. -/
def perform (op : Op) : Procedure Reply (Reply op) := ExceptT.mk (Program.request op)

/-- The outcome of a procedure, unless the user interrupted it. -/
def attempt (p : Procedure Reply α) : Procedure Reply (Except Fault α) := ExceptT.mk do
  match ← ExceptT.run p with
  | .ok a => return .ok (.ok a)
  | .error fault => return if fault.isInterrupt then .error fault else .ok (.error fault)

def outcome (p : Procedure Reply α) : Procedure Reply (Except Fault α) := ExceptT.mk do
  return .ok (← ExceptT.run p)

def act (handle : (op : Op) → Act σ (Reply op)) (p : Procedure Reply α) : Act σ α :=
  Act.make fun s => Program.run handle (ExceptT.run p) s

end Procedure

end KeywordSuite
