import KeywordSuite.Proofs.Case.Completion
import KeywordSuite.Proofs.Session.Refinement

/-!
# What a context releases

Only the first cleanup of a context closes a session, and only the one that is attached, while it is the live session
of the context's own unit. Every other session stays as it is, whatever closing meets.
-/

namespace KeywordSuite

variable {ω : Type} {s : Surroundings ω} {c : Context} {w : World (Recorded ω)}

/-- What a cleanup of a context does in the registry: it quits the attached session, or nothing. -/
inductive Releases (c : Context) (w w' : World (Recorded ω)) : Prop
  | quits {n : SessionId} (first : c.cleanedUp = false) (attached : c.session = some n)
      (live : w.sessions.live? c.identity.unit = some n)
      (sessions : w'.sessions = w.sessions.tearDown c.identity.unit)
      (journal : w'.outer.journal = w.outer.journal ++ [.called n .quit])
  | spares (other : c.cleanedUp = true ∨ ∀ n, c.session = some n → w.sessions.live? c.identity.unit ≠ some n)
      (sessions : w'.sessions = w.sessions) (journal : w'.outer.journal = w.outer.journal)

theorem meets_isCurrent {n : SessionId} {unit : UnitId}
    {post : Except Fault Bool → Context → World (Recorded ω) → Prop} :
    Meets s.recorded.actual (ContextProcedure.perform (.isCurrent n unit)) c w post ↔
      post (.ok (w.sessions.live? unit == some n)) c w := meets_handled

theorem meets_releases (closes : s.closeFault = none) (quits : ∀ n, (s.browse n .quit).Ordinarily)
    (registered : c.hasRegistry = true) :
    Meets s.recorded.actual ContextProcedure.cleanUp c w fun r c' w' => r = .ok () ∧
      c' = { c with cleanedUp := true, session := none, scratch := [] } ∧ Releases c w w' := by
  unfold ContextProcedure.cleanUp
  rw [meets_bind, meets_get]
  dsimp only
  rw [meets_bind, meets_set]
  dsimp only
  cases attached : c.session with
  | none => exact ⟨rfl, rfl, .spares (.inr fun n h => by rw [attached] at h; cases h) rfl rfl⟩
  | some n =>
    dsimp only
    rw [registered, Bool.and_true]
    cases first : c.cleanedUp with
    | true => exact ⟨rfl, rfl, .spares (.inl first) rfl rfl⟩
    | false =>
      rw [Bool.not_false, if_pos rfl, meets_bind, meets_attempt, meets_bind, meets_isCurrent]
      dsimp only
      by_cases live : w.sessions.live? c.identity.unit = some n
      · obtain ⟨x, closed⟩ := SessionBackend.close_recorded closes quits c.identity.unit w
        have run : (s.recorded.handle (.closeSession c.identity.unit)).run w = _ := closed
        rw [live, beq_self_eq_true, if_pos rfl]
        refine meets_handled.2 ?_
        rw [run, live]
        exact ⟨rfl, rfl, .quits first attached live rfl rfl⟩
      · rw [if_neg (by simpa using live)]
        refine ⟨rfl, rfl, .spares (.inr fun m h => ?_) rfl rfl⟩
        rw [attached] at h
        obtain rfl := Option.some.inj h
        exact live

/-! ## Before a cleanup -/

/-- What may happen to a context and the registry: an operation on the context, or a call on the registry by anyone. -/
inductive ContextStep
  | own (op : KeywordOp)
  | registry (call : RegistryCall)

namespace ContextStep

variable (s) in
def run (x : Context × World (Recorded ω)) : ContextStep → Context × World (Recorded ω)
  | .own op =>
    let ((_, c), w) := (op.serve.run x.1).run s.recorded.handle x.2
    (c, w)
  | .registry call => (x.1, ((s.toSessionBackend.recorded.serve call).run x.2).2)

variable (s) in
def runAll (x : Context × World (Recorded ω)) (steps : List ContextStep) : Context × World (Recorded ω) :=
  steps.foldl (run s) x

end ContextStep

/-- A context that belongs to a test case and may release sessions, after steps. -/
structure Context.Of (id : CaseIdentity) (steps : List ContextStep) (c : Context) : Prop where
  identity : c.identity = id
  registered : c.hasRegistry = true
  cleanedUp : c.cleanedUp = true ↔ .own .cleanUp ∈ steps

theorem Context.of_new (id : CaseIdentity) : Context.Of id [] (Context.new id true) := ⟨rfl, rfl, by simp [Context.new]⟩

section

variable (closes : s.closeFault = none) (quits : ∀ n, (s.browse n .quit).Ordinarily)
include closes quits

theorem Context.Of.own {id : CaseIdentity} {steps : List ContextStep} (h : Context.Of id steps c) (op : KeywordOp) :
    Meets s.recorded.actual op.serve c w fun _ c' _ => Context.Of id (steps ++ [.own op]) c' := by
  have kept : op ≠ .cleanUp → ∀ {c'}, c'.identity = c.identity → c'.hasRegistry = c.hasRegistry →
      c'.cleanedUp = c.cleanedUp → Context.Of id (steps ++ [.own op]) c' := by
    intro other c' identity registered cleanedUp
    refine ⟨identity.trans h.identity, registered.trans h.registered, ?_⟩
    rw [cleanedUp, h.cleanedUp]
    simp [other.symm]
  cases op with
  | cleanUp =>
    refine (meets_releases closes quits h.registered).mono ?_
    rintro _ _ _ ⟨-, rfl, -⟩
    exact ⟨h.identity, h.registered, by simp⟩
  | fail reason => exact (meets_contextFail reason).2 (kept nofun rfl rfl rfl)
  | shared op => exact meets_handled.2 (kept nofun rfl rfl rfl)
  | _ => exact kept nofun rfl rfl rfl

theorem Context.Of.run {id : CaseIdentity} {steps : List ContextStep} {x : Context × World (Recorded ω)}
    (h : Context.Of id steps x.1) (step : ContextStep) : Context.Of id (steps ++ [step]) (step.run s x).1 := by
  cases step with
  | own op => exact (Surroundings.keeps_actual _ x.2 _).1 (h.own closes quits op)
  | registry call => exact ⟨h.identity, h.registered, by simp [ContextStep.run, h.cleanedUp]⟩

theorem Context.Of.runAll {id : CaseIdentity} : ∀ (rest : List ContextStep) {steps : List ContextStep}
    {x : Context × World (Recorded ω)}, Context.Of id steps x.1 →
      Context.Of id (steps ++ rest) (ContextStep.runAll s x rest).1
  | [], _, _, h => by rwa [List.append_nil]
  | step :: rest, steps, x, h => by
    have others := Context.Of.runAll rest (h.run closes quits step)
    rwa [List.append_assoc] at others

/--
Whatever happened to a context and the registry before, a cleanup comes to its end, even if the session cannot be
quit. It quits the attached session exactly if it is the first cleanup and that session is the live one of the
context's own unit; otherwise it leaves the registry as it is. The slots of all other units stay, and of the context
only the attached session and the scratch space go.
-/
theorem cleanUp_releases_own_session (id : CaseIdentity) (start : ω) (steps : List ContextStep) :
    let x := ContextStep.runAll s (Context.new id true, ⟨.empty, ⟨start, []⟩⟩) steps
    ∃ w', (ContextProcedure.cleanUp.run x.1).run s.recorded.handle x.2 =
        ((.ok (), { x.1 with cleanedUp := true, session := none, scratch := [] }), w') ∧
      (∀ n, .own .cleanUp ∉ steps → x.1.session = some n → x.2.sessions.live? id.unit = some n →
        w'.outer.journal = x.2.outer.journal ++ [.called n .quit] ∧ w'.sessions = x.2.sessions.tearDown id.unit) ∧
      ((.own .cleanUp ∈ steps ∨ ∀ n, x.1.session = some n → x.2.sessions.live? id.unit ≠ some n) →
        w'.outer.journal = x.2.outer.journal ∧ w'.sessions = x.2.sessions) ∧
      ∀ u, u ≠ id.unit → w'.sessions.slot? u = x.2.sessions.slot? u := by
  intro x
  have context : Context.Of id ([] ++ steps) x.1 := Context.Of.runAll closes quits steps (Context.of_new id)
  rw [List.nil_append] at context
  obtain ⟨r, c', w', run, rfl, rfl, releases⟩ :=
    Surroundings.exists_of_meets (meets_releases (w := x.2) closes quits context.registered)
  -- each of the two effects goes with one side of the claims, and the other side contradicts its reasons
  refine ⟨w', run, fun n first attached live => ?_, fun other => ?_, fun u away => ?_⟩
  · cases releases with
    | quits _ attached' _ sessions journal =>
      obtain rfl := Option.some.inj (attached.symm.trans attached')
      exact ⟨journal, context.identity ▸ sessions⟩
    | spares other =>
      rcases other with again | gone
      · exact absurd (context.cleanedUp.1 again) first
      · exact absurd live (context.identity ▸ gone n attached)
  · cases releases with
    | quits first attached live =>
      rcases other with again | gone
      · rw [context.cleanedUp.2 again] at first
        cases first
      · exact absurd (context.identity ▸ live) (gone _ attached)
    | spares _ sessions journal => exact ⟨journal, sessions⟩
  · cases releases with
    | quits _ _ _ sessions =>
      rw [sessions, context.identity]
      exact (SessionTable.slot?_adjust _ _ _ _).trans (if_neg away)
    | spares _ sessions => rw [sessions]

end

/-- Sessions can be created, but not quit. -/
def Surroundings.clinging : Surroundings Unit := { Surroundings.adverse [] with create := fun _ _ => pure () }

/-- Two units have a session each; the first one's context is cleaned up, although the session does not quit. -/
theorem cleanUp_releases_own_session_clinging :
    let steps : List ContextStep := [.own (.shared (.openSession none (.worker 1))),
      .registry (.openSession none .calling), .own (.attach (some 1)), .own (.fail "broken"),
      .own (.put "PATH" (.text "shot.png"))]
    let x := ContextStep.runAll .clinging (Context.new ⟨"TC1", "First", .worker 1⟩ true, ⟨.empty, ⟨(), []⟩⟩) steps
    ∃ c' w', (ContextProcedure.cleanUp.run x.1).run Surroundings.clinging.recorded.handle x.2 = ((.ok (), c'), w') ∧
      c'.session = none ∧ c'.scratch = [] ∧ c'.failures = ["broken"] ∧
      w'.outer.journal = [.created 1, .created 2, .called 1 .quit] ∧
      w'.sessions.live? (.worker 1) = none ∧ w'.sessions.live? .calling = some 2 := by
  intro steps x
  have quits : ∀ n, (Surroundings.clinging.browse n .quit).Ordinarily := fun _ => Act.ordinarily_throw rfl
  obtain ⟨w', run, quit, -, -⟩ := cleanUp_releases_own_session rfl quits ⟨"TC1", "First", .worker 1⟩ () steps
  obtain ⟨journal, sessions⟩ := quit 1 (by simp [steps]) rfl rfl
  refine ⟨_, w', run, rfl, rfl, rfl, journal, ?_, ?_⟩
  · rw [sessions]; rfl
  · rw [sessions]; rfl

end KeywordSuite
