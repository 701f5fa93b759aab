import KeywordSuite.Proofs.Coupling
import KeywordSuite.Proofs.Entries
import KeywordSuite.Proofs.Keyword.Assembly

/-!
# Input data as a mapping

A context is asked for one key of its input at a time, so the order of the input is nothing to a keyword that
loads no definitions itself. Programs keep step if they do the same operations, one hearing each answer as the
other would hear it rearranged.
-/

namespace KeywordSuite

/-! ## The same mapping -/

namespace Entries

variable {α : Type} {new new' : Entries α}

/-- Whatever they are set into, the same is found for every key. -/
def SameMapping (new new' : Entries α) : Prop :=
  ∀ entries key, (setAll entries new).get? key = (setAll entries new').get? key

theorem sameMapping_of_perm (distinct : new.keys.Nodup) (perm : new.Perm new') : SameMapping new new' := by
  have distinct' : new'.keys.Nodup := (perm.map Prod.fst).nodup_iff.1 distinct
  have found : ∀ key value, new.get? key = some value ↔ new'.get? key = some value := fun key value =>
    ⟨fun h => get?_of_mem distinct' (perm.mem_iff.1 (mem_of_get? h)),
      fun h => get?_of_mem distinct (perm.mem_iff.2 (mem_of_get? h))⟩
  intro entries key
  rw [get?_setAll entries key new distinct, get?_setAll entries key new' distinct', Option.ext (found key)]

end Entries

/-- Contexts that are the same to whoever asks for the input of a key. -/
def Context.Equivalent (c c' : Context) : Prop :=
  ∃ input, c' = { c with input } ∧ ∀ key, c.input.get? key = input.get? key

theorem Context.Equivalent.refl (c : Context) : c.Equivalent c := ⟨c.input, rfl, fun _ => rfl⟩

theorem Context.Equivalent.setInput {c c' : Context} (same : c.Equivalent c') {new new' : Entries Value}
    (mapping : Entries.SameMapping new new') : (c.setInput new).Equivalent (c'.setInput new') := by
  obtain ⟨input, rfl, same⟩ := same
  exact ⟨input.setAll new', rfl, fun key => (Entries.get?_setAll_congr same new key).trans (mapping input key)⟩

/-! ## Programs that keep step -/

namespace Program

variable {Op : Type} {Reply : Op → Type} {α : Type}

/-- The program that hears every value an operation answers as `h` makes it. -/
def mapReplies (h : (op : Op) → Reply op → Reply op) : Program Reply α → Program Reply α
  | .done a => .done a
  | .call op resume => .call op fun reply => (resume (reply.map (h op))).mapReplies h

end Program

/-- An operation that both do, and that answers the second as `h` makes what it answers the first. -/
inductive Heard (h : (op : SharedOp) → op.Reply → op.Reply) :
    (op op' : SharedOp) → (Except Fault op.Reply → Except Fault op'.Reply → Unit → Prop) → Prop
  | same (op : SharedOp) : Heard h op op fun reply reply' _ => reply' = reply.map (h op)

def hearing (h : (op : SharedOp) → op.Reply → op.Reply) : Coupling SharedOp.Reply Unit where
  aside _ := False
  replies _ _ := True
  together _ := Heard h

section

variable {h : (op : SharedOp) → op.Reply → op.Reply} {α β σ τ : Type} {V : α → β → Prop}

/-- Programs that do the same operations, the second hearing the answers through `h`, and end in related values. -/
abbrev InStep (h : (op : SharedOp) → op.Reply → op.Reply) (V : α → β → Prop) (p : Program SharedOp.Reply α)
    (q : Program SharedOp.Reply β) : Prop :=
  Coupled (hearing h) (fun _ => V) () p q

theorem InStep.eq_mapReplies {p q : Program SharedOp.Reply α} (step : InStep h Eq p q) : p = q.mapReplies h := by
  unfold InStep at step
  generalize () = k at step
  induction step with
  | done same => rw [same]; rfl
  | left never => exact never.elim
  | right never => exact never.elim
  | both together _ ih =>
    cases together with
    | same => exact congrArg (Program.call _) (funext fun reply => ih reply _ () rfl)

theorem inStep_of_only {p : Program SharedOp.Reply α} (only : p.Only fun op => h op = id) : InStep h Eq p p := by
  induction p with
  | done a => exact .done rfl
  | call op resume ih =>
    obtain ⟨plain, others⟩ := only
    refine .both (.same op) ?_
    rintro reply _ ⟨⟩ rfl
    have same : reply.map (h op) = reply := by rw [plain]; cases reply <;> rfl
    rw [same]
    exact ih reply (others reply)

/-! ## Procedures over a state -/

/-- From related states two procedures keep step, and come to one outcome and to related states. -/
def StepsIn (h : (op : SharedOp) → op.Reply → op.Reply) (I : σ → τ → Prop)
    (p : ExceptT Fault (StateT σ (Program SharedOp.Reply)) α) (q : ExceptT Fault (StateT τ (Program SharedOp.Reply)) α) :
    Prop :=
  ∀ x y, I x y → InStep h (fun r r' => r.1 = r'.1 ∧ I r.2 r'.2) (StateT.run (ExceptT.run p) x) (StateT.run (ExceptT.run q) y)

variable {I : σ → τ → Prop} {p : ExceptT Fault (StateT σ (Program SharedOp.Reply)) α}
  {q : ExceptT Fault (StateT τ (Program SharedOp.Reply)) α}

theorem steps_pure (a : α) : StepsIn h I (pure a : ExceptT Fault (StateT σ (Program SharedOp.Reply)) α) (pure a) :=
  fun _ _ same => .done ⟨rfl, same⟩

theorem steps_throw (fault : Fault) :
    StepsIn h I (throw fault : ExceptT Fault (StateT σ (Program SharedOp.Reply)) α) (throw fault) :=
  fun _ _ same => .done ⟨rfl, same⟩

theorem steps_set {x : σ} {y : τ} (same : I x y) :
    StepsIn h I (set x : ExceptT Fault (StateT σ (Program SharedOp.Reply)) PUnit) (set y) :=
  fun _ _ _ => .done ⟨rfl, same⟩

theorem steps_modify {f : σ → σ} {g : τ → τ} (kept : ∀ x y, I x y → I (f x) (g y)) :
    StepsIn h I (modify f : ExceptT Fault (StateT σ (Program SharedOp.Reply)) PUnit) (modify g) :=
  fun x y same => .done ⟨rfl, kept x y same⟩

/-- Whoever reads the state may read a related one. -/
theorem steps_get {f : σ → ExceptT Fault (StateT σ (Program SharedOp.Reply)) α}
    {g : τ → ExceptT Fault (StateT τ (Program SharedOp.Reply)) α}
    (rest : ∀ x y, I x y → StepsIn h I (f x) (g y)) : StepsIn h I (get >>= f) (get >>= g) :=
  fun x y same => rest x y same x y same

theorem StepsIn.bind {f : α → ExceptT Fault (StateT σ (Program SharedOp.Reply)) β}
    {g : α → ExceptT Fault (StateT τ (Program SharedOp.Reply)) β} (first : StepsIn h I p q)
    (rest : ∀ a, StepsIn h I (f a) (g a)) : StepsIn h I (p >>= f) (q >>= g) := by
  intro x y same
  refine Coupled.bind (first x y same) ?_
  rintro _ ⟨r, x'⟩ ⟨_, y'⟩ ⟨rfl, same⟩
  cases r with
  | ok a => exact rest a x' y' same
  | error fault => exact .done ⟨rfl, same⟩

end

/-! ## Procedures of a context -/

section

variable {h : (op : SharedOp) → op.Reply → op.Reply} {α β : Type}

/-- Procedures that keep step in contexts that are the same to whoever asks for a key. -/
abbrev ContextSteps (h : (op : SharedOp) → op.Reply → op.Reply) (p q : ContextProcedure α) : Prop :=
  StepsIn h Context.Equivalent p q

theorem steps_shared {p : SharedProcedure α} (only : (ExceptT.run p).Only fun op => h op = id) :
    ContextSteps h (.shared p) (.shared p) := by
  intro c c' same
  refine Coupled.bind (inStep_of_only only) ?_
  rintro _ r _ rfl
  exact .done ⟨rfl, same⟩

theorem steps_perform {op : SharedOp} (plain : h op = id) : ContextSteps h (.perform op) (.perform op) :=
  steps_shared (p := SharedProcedure.perform op) ⟨plain, fun _ => trivial⟩

theorem StepsIn.attempt {p q : ContextProcedure α} (step : ContextSteps h p q) : ContextSteps h p.attempt q.attempt := by
  intro c c' same
  refine Coupled.bind (step c c' same) ?_
  rintro _ ⟨r, _⟩ ⟨_, _⟩ ⟨rfl, same⟩
  cases r <;> exact .done ⟨rfl, same⟩

end

/-! ## Loading definitions -/

/-- Operations that load definitions. -/
def SharedOp.isLoad : SharedOp → Bool
  | .loadInput _ | .loadKeywords _ => true
  | _ => false

def KeywordOp.isLoad : KeywordOp → Bool
  | .shared op => op.isLoad
  | _ => false

/-- A keyword that has the input of its test case from the context, and loads no definitions itself. -/
def KeywordEntry.LoadsNothing (e : KeywordEntry) : Prop := ∀ id, Procedure.Only (fun op => op.isLoad = false) (e.body id)

def KeywordRegistry.LoadsNothing (r : KeywordRegistry) : Prop := ∀ name e, r.resolve? name = some e → e.LoadsNothing

section

variable {h : (op : SharedOp) → op.Reply → op.Reply} (plain : ∀ op : SharedOp, op.isLoad = false → h op = id)
include plain

theorem steps_contextFail (reason : String) : ContextSteps h (.fail reason) (.fail reason) := by
  refine (steps_modify ?_).bind fun _ => steps_perform (plain (.log .error _) rfl)
  rintro c _ ⟨input, rfl, same⟩
  exact ⟨input, rfl, same⟩

theorem steps_cleanUp : ContextSteps h .cleanUp .cleanUp := by
  have clears : ContextSteps h (modify fun c => { c with scratch := [] } : ContextProcedure Unit)
      (modify fun c => { c with scratch := [] }) := by
    refine steps_modify ?_
    rintro c _ ⟨input, rfl, same⟩
    exact ⟨input, rfl, same⟩
  unfold ContextProcedure.cleanUp
  refine steps_get ?_
  rintro c _ ⟨input, rfl, same⟩
  refine (steps_set ⟨input, rfl, same⟩).bind fun _ => ?_
  dsimp only
  split
  · rename_i session _
    split
    · have closing : ContextSteps h (do
            if ← ContextProcedure.perform (.isCurrent session c.identity.unit) then
              ContextProcedure.perform (.closeSession c.identity.unit) : ContextProcedure Unit) (do
            if ← ContextProcedure.perform (.isCurrent session c.identity.unit) then
              ContextProcedure.perform (.closeSession c.identity.unit)) := by
        refine (steps_perform (plain (.isCurrent session _) rfl)).bind fun current => ?_
        cases (current : Bool) with
        | true => exact steps_perform (plain (.closeSession _) rfl)
        | false => exact steps_pure _
      refine closing.attempt.bind fun closed => ?_
      cases closed with
      | ok _ => exact clears
      | error fault => exact (steps_perform (plain (.log .error _) rfl)).bind fun _ => clears
    · exact clears
  · exact clears

theorem steps_serve {op : KeywordOp} (other : op.isLoad = false) : ContextSteps h op.serve op.serve := by
  cases op with
  | fail reason => exact steps_contextFail plain reason
  | cleanUp => exact steps_cleanUp plain
  | shared op => exact steps_perform (plain op other)
  | addInput key value =>
    refine steps_modify ?_
    rintro c _ ⟨input, rfl, same⟩
    refine ⟨input.set key value, rfl, fun other => ?_⟩
    exact (Entries.get?_set key other value c.input).trans
      ((congrArg _ (same other)).trans (Entries.get?_set key other value input).symm)
  | put key value =>
    refine steps_modify ?_
    rintro c _ ⟨input, rfl, same⟩
    exact ⟨input, rfl, same⟩
  | attach session =>
    refine steps_modify ?_
    rintro c _ ⟨input, rfl, same⟩
    exact ⟨input, rfl, same⟩
  | input key =>
    refine steps_get ?_
    rintro c _ ⟨input, rfl, same⟩
    dsimp only
    rw [same key]
    exact steps_pure _
  | scratch | attached | passed =>
    refine steps_get ?_
    rintro c _ ⟨input, rfl, same⟩
    exact steps_pure _

theorem inStep_runProgram {α : Type} {p : Program KeywordOp.Reply α} (only : p.Only fun op => op.isLoad = false) :
    ∀ {c c' : Context}, c.Equivalent c' → InStep h (fun r r' => r.1 = r'.1 ∧ r.2.Equivalent r'.2)
      (KeywordOp.runProgram p c) (KeywordOp.runProgram p c') := by
  induction p with
  | done a => exact fun same => .done ⟨rfl, same⟩
  | call op resume ih =>
    intro c c' same
    obtain ⟨other, rest⟩ := only
    refine Coupled.bind (steps_serve plain other c c' same) ?_
    rintro _ ⟨reply, _⟩ ⟨_, _⟩ ⟨rfl, same⟩
    exact ih reply (rest reply) same

theorem KeywordEntry.LoadsNothing.steps {e : KeywordEntry} (he : e.LoadsNothing) (id : CaseIdentity) :
    ContextSteps h (e.body id).runIn (e.body id).runIn :=
  fun _ _ same => inStep_runProgram plain (he id) same

end

/-! ## The keywords that drive the browser -/

theorem KeywordOp.isLoad_of_drives {op : KeywordOp} (drives : op.drives = true) : op.isLoad = false := by
  cases op with
  | shared op => cases op <;> first | rfl | cases drives
  | _ => rfl

theorem BrowserKeyword.loadsNothing_of_isBuiltIn {e : KeywordEntry} (h : IsBuiltIn e.body) : e.LoadsNothing :=
  fun id => Program.Only.mono (fun _ => KeywordOp.isLoad_of_drives) (assembled_of_isBuiltIn h id).drives

end KeywordSuite
