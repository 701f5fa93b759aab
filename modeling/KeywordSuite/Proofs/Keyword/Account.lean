import KeywordSuite.Proofs.Case.Completion

/-!
# The account a dispatch gives of its keyword

A dispatch runs the keyword a name stands for once, and nothing if the name stands for none. What it does itself is
to write log lines and to add at most one reason to the context, and its record tells how the keyword ended.
-/

namespace KeywordSuite

variable {ω : Type}

namespace Surroundings

variable (s : Surroundings ω)

/-- A world that log lines alone lead to from another. -/
inductive Noted (w : World ω) : World ω → Prop
  | refl : Noted w w
  | line {w' : World ω} (level : LogLevel) (message : String) : Noted w w' → Noted w (s.logged level message w')

/-- A stopwatch that never goes back. -/
def Steady : Prop := ∀ w w', s.Later w w' → 0.0 ≤ s.stopwatch w'.outer - s.stopwatch w.outer

variable {s}

theorem Noted.after_line {level : LogLevel} {message : String} {w w' : World ω}
    (h : s.Noted (s.logged level message w) w') : s.Noted w w' := by
  induction h with
  | refl => exact .line level message .refl
  | line level message _ ih => exact .line level message ih

end Surroundings

namespace KeywordEntry

/-- What the status and the reason of a record tell of how a keyword ended, of the context it left and of the
context after the dispatch. -/
structure Accounts (e : KeywordEntry) (outcome : Except Fault Value) (left after : Context) (status : KeywordStatus)
    (reason : Option String) : Prop where
  failed_iff : status = .failed ↔ (∃ fault, outcome = .error fault) ∨
    e.mandatory = true ∧ ∃ v, outcome = .ok v ∧ Verdict.ofReturned v = .failure
  softFailed_iff : status = .softFailed ↔ e.mandatory = false ∧ ∃ v, outcome = .ok v ∧ Verdict.ofReturned v = .failure
  tells : status = .failed → after.passed = false ∧ ∃ x ∈ after.failures, reason = some x
  leaves : status ≠ .failed → after = left
  adds : after = left ∨ ∃ x, after = left.fail x
  first : ∀ v, outcome = .ok v → after ≠ left → left.failures = []
  broken : ∀ fault, outcome = .error fault →
    reason = some ("Error executing keyword: " ++ e.name ++ " - " ++ fault.message) ∧ ∃ x ∈ reason, after = left.fail x

/-- Between two procedures that do not depend on what the keyword does, any dispatch of this entry runs it once. -/
def InvokedOnce (e : KeywordEntry) : Prop :=
  ∃ (before : ContextProcedure Float) (after : Float → Except Fault Value → ContextProcedure KeywordExecution),
    ∀ (r : KeywordRegistry) (name : Option String) (body : KeywordBody), r.resolve? name = some { e with body := body } →
      r.dispatch name = before >>= fun start => get >>= fun c => (body c.identity).runIn.attempt >>= after start

variable {s : Surroundings ω} {e : KeywordEntry} {c : Context} {w : World ω} {v : Value}

theorem invokedOnce (e : KeywordEntry) : e.InvokedOnce := by
  refine ⟨do
    ContextProcedure.log .info ("Executing keyword: " ++ e.name)
    ContextProcedure.perform .stopwatch, ?_⟩
  apply Exists.intro
  intro r name body resolved
  unfold KeywordRegistry.dispatch
  rw [resolved]
  unfold KeywordRegistry.runEntry KeywordRegistry.judge
  simp only [bind_assoc]
  rfl

theorem accounts_fine (fine : Verdict.ofReturned v ≠ .failure) : e.Accounts (.ok v) c c .passed none where
  failed_iff := by simp [fine]
  softFailed_iff := by simp [fine]
  tells h := by cases h
  leaves _ := rfl
  adds := .inl rfl
  first _ _ h := absurd rfl h
  broken _ h := by cases h

theorem accounts_optional (optional : e.mandatory = false) (refused : Verdict.ofReturned v = .failure)
    (reason : Option String) : e.Accounts (.ok v) c c .softFailed reason where
  failed_iff := by simp [optional]
  softFailed_iff := by simp [optional, refused]
  tells h := by cases h
  leaves _ := rfl
  adds := .inl rfl
  first _ _ h := absurd rfl h
  broken _ h := by cases h

theorem passed_of_mem {x : String} (given : x ∈ c.failures) : c.passed = false := by
  unfold Context.passed
  rw [List.isEmpty_eq_false_iff]
  exact List.ne_nil_of_mem given

theorem accounts_mandatory (mandatory : e.mandatory = true) (refused : Verdict.ofReturned v = .failure) {after : Context}
    {x : String} (given : x ∈ after.failures) (adds : after = c ∨ c.failures = [] ∧ ∃ x, after = c.fail x) :
    e.Accounts (.ok v) c after .failed (some x) where
  failed_iff := by simp [mandatory, refused]
  softFailed_iff := by simp [mandatory]
  tells _ := ⟨passed_of_mem given, x, given, rfl⟩
  leaves h := absurd rfl h
  adds := adds.imp_right And.right
  first _ _ h := (adds.resolve_left h).1
  broken _ h := by cases h

theorem accounts_fault (fault : Fault) {x : String}
    (text : x = "Error executing keyword: " ++ e.name ++ " - " ++ fault.message) :
    e.Accounts (.error fault) c (c.fail x) .failed (some x) where
  failed_iff := by simp
  softFailed_iff := by simp
  tells _ :=
    have given : x ∈ (c.fail x).failures := by simp [Context.fail]
    ⟨passed_of_mem given, x, given, rfl⟩
  leaves h := absurd rfl h
  adds := .inr ⟨x, rfl⟩
  first _ h := by cases h
  broken _ h := by
    cases h
    exact ⟨congrArg some text, x, rfl, rfl⟩

/-- A judgement writes log lines and accounts for what the keyword returned. -/
theorem accounts_judge (e : KeywordEntry) (v : Value) :
    Meets s.actual (KeywordRegistry.judge e v) c w fun r c' w' => ∃ status reason, r = .ok (status, reason) ∧
      e.Accounts (.ok v) c c' status reason ∧ s.Noted w w' := by
  unfold KeywordRegistry.judge
  cases verdict : Verdict.ofReturned v with
  | success =>
    simp only [meets_bind, meets_contextLog, meets_pure]
    exact ⟨_, _, rfl, accounts_fine (by simp [verdict]), .line _ _ .refl⟩
  | noVerdict =>
    dsimp only
    split <;>
    · simp only [meets_bind, meets_contextLog, meets_pure]
      exact ⟨_, _, rfl, accounts_fine (by simp [verdict]), .line _ _ .refl⟩
  | failure =>
    cases mandatory : e.mandatory with
    | false =>
      simp only [Bool.false_eq_true, if_false, meets_bind, meets_contextLog, meets_pure]
      exact ⟨_, _, rfl, accounts_optional mandatory verdict _, .line _ _ .refl⟩
    | true =>
      simp only [if_true, meets_bind, meets_contextLog, meets_get]
      cases failures : c.failures with
      | nil =>
        simp only [Context.failureReason, failures, List.head?_nil, meets_bind, meets_contextFail, meets_pure]
        exact ⟨_, _, rfl, accounts_mandatory mandatory verdict (by simp [Context.fail]) (.inr ⟨failures, _, rfl⟩),
          .line _ _ (.line _ _ .refl)⟩
      | cons first rest =>
        simp only [Context.failureReason, failures, List.head?_cons, meets_pure]
        exact ⟨_, _, rfl, accounts_mandatory mandatory verdict (by simp [failures]) (.inl rfl), .line _ _ .refl⟩

theorem accounts_runEntry (steady : s.Steady) (ordinary : Ordinary (e.played s c w).1.1) :
    Meets s.actual (KeywordRegistry.runEntry e) c w fun result c' w' => ∃ x, result = .ok x ∧
      e.Accounts (e.played s c w).1.1 (e.played s c w).1.2 c' x.status x.reason ∧ s.Noted (e.played s c w).2 w' := by
  have later : s.Later (s.logged .info ("Executing keyword: " ++ e.name) w) (e.played s c w).2 := .run _ .refl
  have elapsed := milliseconds_nonneg (steady _ _ later)
  have plays : Meets s.actual (e.body c.identity).runIn c (s.logged .info ("Executing keyword: " ++ e.name) w)
      fun r c' w' => ((r, c'), w') = e.played s c w := (Surroundings.keeps_actual _ _ _).2 rfl
  unfold KeywordRegistry.runEntry
  rw [meets_bind, meets_contextLog]
  dsimp only
  rw [meets_bind, meets_readStopwatch]
  dsimp only
  rw [meets_bind, meets_get]
  dsimp only
  rw [meets_bind, meets_attempt]
  refine plays.mono ?_
  intro r c' w' told
  rw [← told] at ordinary elapsed ⊢
  rw [settled_of_ordinary ordinary]
  dsimp only at elapsed ⊢
  rw [meets_bind, meets_readStopwatch]
  cases r with
  | error fault =>
    simp only [meets_bind, meets_contextLog, meets_contextFail, meets_conclude, record_ok elapsed]
    exact ⟨_, rfl, accounts_fault fault rfl, .line _ _ (.line _ _ .refl)⟩
  | ok returned =>
    simp only [meets_bind, meets_contextLog]
    refine (accounts_judge e returned).mono ?_
    intro _ c'' _ told
    obtain ⟨status, reason, rfl, accounts, noted⟩ := told
    simp only [meets_conclude, record_ok elapsed]
    exact ⟨_, rfl, accounts, noted.after_line⟩

end KeywordEntry

namespace KeywordRegistry

variable {s : Surroundings ω}

/--
A dispatch comes to one record. A name that stands for nothing fails the test case and runs nothing. A keyword is run
once, and the record accounts for how it ended and for the context it left; beside that the world gets log lines
and the context at most one more reason.
-/
theorem dispatch_accounts (steady : s.Steady) (r : KeywordRegistry) (name : Option String) (c : Context) (w : World ω)
    (ordinary : ∀ e, r.resolve? name = some e → Ordinary (e.played s c w).1.1) :
    ∃ x c' w', ((r.dispatch name).run c).run s.handle w = ((.ok x, c'), w') ∧
      (r.resolve? name = none → x.status = .failed ∧ x.reason = some ("Unknown keyword: " ++ name.getD "None") ∧
        c' = c.fail ("Unknown keyword: " ++ name.getD "None") ∧ s.Noted w w') ∧
      ∀ e, r.resolve? name = some e → e.InvokedOnce ∧
        e.Accounts (e.played s c w).1.1 (e.played s c w).1.2 c' x.status x.reason ∧ s.Noted (e.played s c w).2 w' := by
  cases resolved : r.resolve? name with
  | none =>
    have whole : Meets s.actual (reportUnknown name) c w fun result c' w' => ∃ x, result = .ok x ∧ x.status = .failed ∧
        x.reason = some ("Unknown keyword: " ++ name.getD "None") ∧
        c' = c.fail ("Unknown keyword: " ++ name.getD "None") ∧ s.Noted w w' := by
      simp only [reportUnknown, meets_bind, meets_contextLog, meets_contextFail, meets_pure]
      exact ⟨_, rfl, rfl, rfl, trivial, .line _ _ (.line _ _ .refl)⟩
    obtain ⟨result, c', w', run, x, rfl, told⟩ := Surroundings.exists_of_meets whole
    have same : r.dispatch name = reportUnknown name := by
      unfold dispatch
      rw [resolved]
    rw [same]
    refine ⟨x, c', w', run, fun _ => told, fun e h => ?_⟩
    cases h
  | some e =>
    have whole := KeywordEntry.accounts_runEntry steady (ordinary e resolved)
    obtain ⟨result, c', w', run, x, rfl, accounts, noted⟩ := Surroundings.exists_of_meets whole
    have same : r.dispatch name = runEntry e := by
      unfold dispatch
      rw [resolved]
    rw [same]
    refine ⟨x, c', w', run, fun h => ?_, fun e' h => ?_⟩
    · cases h
    · obtain rfl := Option.some.inj h
      exact ⟨e.invokedOnce, accounts, noted⟩

/-- A keyword that fails the test case and then breaks leaves two reasons, the second from the dispatch. -/
theorem dispatch_accounts_break :
    let s := Surroundings.adverse []
    let c := Context.new ⟨"TC1", "First", .calling⟩ true
    ∃ x c' w', ((fragile.dispatch (some " break ")).run c).run s.handle ⟨.empty, ()⟩ = ((.ok x, c'), w') ∧
      x.status = .failed ∧ x.reason = some "Error executing keyword: BREAK - break" ∧
        c'.failures = ["broken", "Error executing keyword: BREAK - break"] := by
  intro s c
  have steady : s.Steady := (Surroundings.orderly_adverse []).steady
  obtain ⟨e, resolved, named, outcome, left⟩ : ∃ e, fragile.resolve? (some " break ") = some e ∧ e.name = "BREAK" ∧
      (e.played s c ⟨.empty, ()⟩).1.1 = .error (.plain .runtime "break") ∧
        (e.played s c ⟨.empty, ()⟩).1.2.failures = ["broken"] :=
    ⟨_, rfl, rfl, rfl, rfl⟩
  obtain ⟨x, c', w', run, -, known⟩ := fragile.dispatch_accounts steady (some " break ") c ⟨.empty, ()⟩ (by
    intro e' h
    obtain rfl := Option.some.inj (resolved.symm.trans h)
    rw [outcome]
    intro fault raised
    cases raised
    rfl)
  obtain ⟨-, accounts, -⟩ := known e resolved
  have text : "Error executing keyword: " ++ e.name ++ " - " ++ (Fault.plain .runtime "break").message =
      "Error executing keyword: BREAK - break" := by
    rw [named]
    decide
  obtain ⟨reason, y, given, after⟩ := accounts.broken _ outcome
  rw [text] at reason
  obtain rfl := Option.some.inj (reason.symm.trans given)
  refine ⟨x, c', w', run, accounts.failed_iff.2 (.inl ⟨_, outcome⟩), reason, ?_⟩
  rw [after]
  exact congrArg (· ++ _) left

end KeywordRegistry

end KeywordSuite
