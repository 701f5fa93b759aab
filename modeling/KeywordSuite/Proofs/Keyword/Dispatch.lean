import KeywordSuite.Proofs.Number.Milliseconds
import KeywordSuite.Proofs.Surroundings

/-!
# What a dispatch does

A dispatch always ends in a record. Beside what the keyword itself fails the test case with, it
adds at most one reason of its own, and it does so exactly if its record is one of a failure.
-/

namespace KeywordSuite

/-! ## Reasons of failure -/

inductive Trouble
  | certain (reason : String)
  /-- What a mandatory keyword returned; it is a reason only where there is none yet. -/
  | returned (reason : String)

/-- The history of a test case after a trouble. -/
def Trouble.addTo (history : List String) : Trouble → List String
  | .certain reason => history ++ [reason]
  | .returned reason => if history.isEmpty then [reason] else history

def Trouble.addAll (history : List String) (troubles : List Trouble) : List String :=
  troubles.foldl Trouble.addTo history

theorem Trouble.addTo_ne_nil (history : List String) (t : Trouble) : t.addTo history ≠ [] := by
  cases t with
  | certain reason => simp [addTo]
  | returned reason => cases history <;> simp [addTo]

theorem Trouble.addAll_certain (reasons : List String) :
    ∀ history, addAll history (reasons.map .certain) = history ++ reasons := by
  induction reasons with
  | nil => intro history; exact (List.append_nil history).symm
  | cons reason rest ih =>
    intro history
    refine (ih (history ++ [reason])).trans ?_
    rw [List.append_assoc, List.singleton_append]

theorem Trouble.addAll_eq_nil {history : List String} {troubles : List Trouble} :
    addAll history troubles = [] ↔ history = [] ∧ troubles = [] := by
  induction troubles generalizing history with
  | nil => simp [addAll]
  | cons t rest ih =>
    have step : addAll history (t :: rest) = addAll (t.addTo history) rest := rfl
    rw [step, ih]
    simp [t.addTo_ne_nil history]

theorem Trouble.prefix_addAll (history : List String) (troubles : List Trouble) :
    history <+: addAll history troubles := by
  induction troubles generalizing history with
  | nil => exact List.prefix_rfl
  | cons t rest ih =>
    refine List.IsPrefix.trans ?_ (ih (t.addTo history))
    cases t with
    | certain reason => exact List.prefix_append _ _
    | returned reason => cases history <;> simp [addTo]

theorem Trouble.addAll_append (history : List String) (ts us : List Trouble) :
    addAll history (ts ++ us) = addAll (addAll history ts) us := List.foldl_append

/-! ## The reasons a keyword gives -/

/-- The reason an operation of a keyword fails the test case with. -/
def KeywordOp.failReason? : KeywordOp → Option String
  | .fail reason => some reason
  | _ => none

section

variable {ω α : Type} (s : Surroundings ω)

/-- The reasons that a running keyword fails its test case with, oldest first. -/
def KeywordOp.failReasons : Program KeywordOp.Reply α → Context → World ω → List String
  | .done _, _, _ => []
  | .call op resume, c, w =>
    let ((reply, c), w) := (op.serve.run c).run s.handle w
    op.failReason?.toList ++ failReasons (resume reply) c w

def Surroundings.logged (level : LogLevel) (message : String) (w : World ω) : World ω :=
  { w with outer := s.log level message w.outer }

variable {s} {σ : Type} {c : Context} {w : World ω}

theorem meets_contextLog {post : Except Fault Unit → Context → World ω → Prop} (level : LogLevel)
    (message : String) : Meets s.actual (ContextProcedure.log level message) c w post ↔
      post (.ok ()) c (s.logged level message w) := meets_handled

theorem meets_contextFail {post : Except Fault Unit → Context → World ω → Prop} (reason : String) :
    Meets s.actual (ContextProcedure.fail reason) c w post ↔
      post (.ok ()) (c.fail reason) (s.logged .error ("Test failed: " ++ reason) w) :=
  meets_contextLog .error _

theorem meets_readStopwatch {post : Except Fault Float → Context → World ω → Prop} :
    Meets s.actual (ContextProcedure.perform .stopwatch) c w post ↔
      post (.ok (s.stopwatch w.outer)) c w := meets_handled

theorem meets_ordinaryPerform (hs : s.Uninterrupted) (op : SharedOp) :
    Meets s.actual (ContextProcedure.perform op) c w fun r c' _ => Ordinary r ∧ c' = c :=
  meets_handled.2 ⟨Surroundings.ordinarily_handle hs op w, rfl⟩

theorem failures_serve (hs : s.Uninterrupted) (op : KeywordOp) :
    Meets s.actual op.serve c w fun _ c' _ => c'.failures = c.failures ++ op.failReason?.toList := by
  have none_added : c.failures = c.failures ++ [] := (List.append_nil _).symm
  cases op with
  | fail reason => exact (meets_contextFail reason).2 rfl
  | addInput key value => exact none_added
  | input key => exact none_added
  | put key value => exact none_added
  | scratch key => exact none_added
  | attach session => exact none_added
  | attached => exact none_added
  | passed => exact none_added
  | cleanUp =>
    refine (Surroundings.meets_cleanUp hs).mono ?_
    intro _ _ _ told
    obtain ⟨-, rfl⟩ := told
    exact none_added
  | shared op =>
    refine (meets_ordinaryPerform hs op).mono ?_
    intro _ _ _ told
    obtain ⟨-, rfl⟩ := told
    exact none_added

theorem failures_runProgram (hs : s.Uninterrupted) {α : Type} (p : Program KeywordOp.Reply α) :
    ∀ c w, ((KeywordOp.runProgram p c).run s.handle w).1.2.failures =
      c.failures ++ KeywordOp.failReasons s p c w := by
  induction p with
  | done a => intro c w; exact (List.append_nil _).symm
  | call op resume ih =>
    intro c w
    have served := (Surroundings.keeps_actual _ w _).1 (failures_serve (c := c) (w := w) hs op)
    simp only [KeywordOp.runProgram, KeywordOp.failReasons, Program.run_bind]
    refine (ih _ _ _).trans ?_
    rw [← List.append_assoc]
    exact congrArg (· ++ _) served

/-! ## The judgement of a dispatch -/

variable (s)

/-- The run of a keyword that is dispatched in a context: its outcome, its context and the world. -/
def KeywordEntry.played (e : KeywordEntry) (c : Context) (w : World ω) :
    (Except Fault Value × Context) × World ω :=
  ((e.body c.identity).runIn.run c).run s.handle (s.logged .info ("Executing keyword: " ++ e.name) w)

/-- What a dispatch makes of how its keyword ended. -/
def KeywordEntry.trouble? (e : KeywordEntry) : Except Fault Value → Option Trouble
  | .error fault => some (.certain ("Error executing keyword: " ++ e.name ++ " - " ++ fault.message))
  | .ok returned =>
    if Verdict.ofReturned returned = .failure ∧ e.mandatory then
      some (.returned ("Mandatory keyword failed: " ++ e.name))
    else none

namespace KeywordRegistry

variable (r : KeywordRegistry) (keyword : String) (c : Context) (w : World ω)

def givenReasons : List String :=
  match r.resolve? (some keyword) with
  | none => []
  | some e => KeywordOp.failReasons s (ExceptT.run (e.body c.identity)) c
      (s.logged .info ("Executing keyword: " ++ e.name) w)

/-- What the dispatch adds to them. -/
def ownTrouble? : Option Trouble :=
  match r.resolve? (some keyword) with
  | none => some (.certain ("Unknown keyword: " ++ keyword))
  | some e => e.trouble? (e.played s c w).1.1

end KeywordRegistry

variable {s}

/-- A record and a history that a judgement leaves where there is a trouble, or there is none. -/
structure Judged (own : Option Trouble) (before : List String) (status : KeywordStatus)
    (reason : Option String) (after : List String) : Prop where
  history : after = Trouble.addAll before own.toList
  failed_iff : status = .failed ↔ own.isSome
  reason_mem : status = .failed → ∃ x ∈ after, reason = some x

theorem judged_fine {before : List String} {status : KeywordStatus} (reason : Option String)
    (h : status ≠ .failed) : Judged none before status reason before :=
  ⟨rfl, iff_of_false h (by simp), fun hf => absurd hf h⟩

theorem judged_certain (before : List String) (reason : String) :
    Judged (some (.certain reason)) before .failed (some reason) (before ++ [reason]) :=
  ⟨rfl, iff_of_true rfl rfl, fun _ => ⟨reason, by simp, rfl⟩⟩

theorem KeywordEntry.trouble?_fine {e : KeywordEntry} {returned : Value}
    (h : Verdict.ofReturned returned = .failure → e.mandatory = false) : e.trouble? (.ok returned) = none :=
  if_neg fun ⟨hv, hm⟩ => by rw [h hv] at hm; cases hm

theorem meets_judge (e : KeywordEntry) (returned : Value) :
    Meets s.actual (KeywordRegistry.judge e returned) c w fun r c' _ => ∃ status reason,
      r = .ok (status, reason) ∧
        Judged (e.trouble? (.ok returned)) c.failures status reason c'.failures := by
  unfold KeywordRegistry.judge
  cases hv : Verdict.ofReturned returned with
  | success =>
    rw [KeywordEntry.trouble?_fine fun h => by rw [hv] at h; cases h]
    simp only [meets_bind, meets_contextLog, meets_pure]
    exact ⟨_, _, rfl, judged_fine none (by decide)⟩
  | noVerdict =>
    rw [KeywordEntry.trouble?_fine fun h => by rw [hv] at h; cases h]
    dsimp only
    split <;>
    · simp only [meets_bind, meets_contextLog, meets_pure]
      exact ⟨_, _, rfl, judged_fine none (by decide)⟩
  | failure =>
    cases hm : e.mandatory with
    | false =>
      rw [KeywordEntry.trouble?_fine fun _ => hm]
      simp only [Bool.false_eq_true, if_false, meets_bind, meets_contextLog, meets_pure]
      exact ⟨_, _, rfl, judged_fine _ (by decide)⟩
    | true =>
      have returns : e.trouble? (.ok returned) =
          some (.returned ("Mandatory keyword failed: " ++ e.name)) := if_pos ⟨hv, hm⟩
      simp only [returns, if_true, meets_bind, meets_contextLog, meets_get]
      -- the reason that is reported is the first one, which need not be this one
      cases hf : c.failures with
      | nil =>
        simp only [Context.failureReason, hf, List.head?_nil, meets_bind, meets_contextFail, meets_pure]
        refine ⟨_, _, rfl, ?_, iff_of_true rfl rfl, fun _ => ⟨_, ?_, rfl⟩⟩
        · simp [Context.fail, hf, Trouble.addAll, Trouble.addTo]
        · simp [Context.fail]
      | cons first rest =>
        simp only [Context.failureReason, hf, List.head?_cons, meets_pure]
        exact ⟨_, _, rfl, by simp [Trouble.addAll, Trouble.addTo], iff_of_true rfl rfl,
          fun _ => ⟨first, by simp, rfl⟩⟩

theorem record_ok {duration : Float} (h : 0.0 ≤ duration) (keyword : String) (status : KeywordStatus)
    (reason : Option String) (mandatory : Bool) :
    KeywordExecution.record keyword status reason duration mandatory =
      .ok ⟨keyword, status, reason, duration, mandatory⟩ := if_pos h

theorem meets_conclude {post : Except Fault KeywordExecution → Context → World ω → Prop}
    (e : Except Fault KeywordExecution) :
    Meets s.actual (KeywordRegistry.conclude e) c w post ↔ post e c w := Iff.rfl

theorem meets_played (hs : s.Uninterrupted) {e : KeywordEntry} (he : e.Uninterrupted s) :
    Meets s.actual (e.body c.identity).runIn c (s.logged .info ("Executing keyword: " ++ e.name) w)
      fun r c' w' => ((r, c'), w') = e.played s c w ∧ Ordinary r ∧
        s.Later (s.logged .info ("Executing keyword: " ++ e.name) w) w' ∧
        c'.failures = c.failures ++ KeywordOp.failReasons s (ExceptT.run (e.body c.identity)) c
          (s.logged .info ("Executing keyword: " ++ e.name) w) := by
  have ends := (Surroundings.keeps_actual _ _ _).1 (he c.identity c
    (s.logged .info ("Executing keyword: " ++ e.name) w))
  refine (Surroundings.keeps_actual _ _ _).2 ⟨rfl, ends, .run _ .refl, ?_⟩
  exact failures_runProgram hs (ExceptT.run (e.body c.identity)) c _

theorem meets_runEntry (hs : s.Orderly) {e : KeywordEntry} (he : e.Uninterrupted s) :
    Meets s.actual (KeywordRegistry.runEntry e) c w fun result c' _ => ∃ x, result = .ok x ∧
      Judged (e.trouble? (e.played s c w).1.1)
        (c.failures ++ KeywordOp.failReasons s (ExceptT.run (e.body c.identity)) c
          (s.logged .info ("Executing keyword: " ++ e.name) w))
        x.status x.reason c'.failures := by
  unfold KeywordRegistry.runEntry
  rw [meets_bind, meets_contextLog]
  dsimp only
  rw [meets_bind, meets_readStopwatch]
  dsimp only
  rw [meets_bind, meets_get]
  dsimp only
  rw [meets_bind, meets_attempt]
  refine (meets_played hs.toUninterrupted he).mono ?_
  intro r c' w' told
  obtain ⟨hr, ordinary, later, gave⟩ := told
  rw [← hr, ← gave, settled_of_ordinary ordinary]
  have elapsed := milliseconds_nonneg (hs.steady _ _ later)
  dsimp only
  rw [meets_bind, meets_readStopwatch]
  cases r with
  | error fault =>
    simp only [meets_bind, meets_contextLog, meets_contextFail, meets_conclude, record_ok elapsed]
    exact ⟨_, rfl, judged_certain _ _⟩
  | ok returned =>
    simp only [meets_bind, meets_contextLog]
    refine (meets_judge e returned).mono ?_
    intro _ c'' _ told
    obtain ⟨status, reason, rfl, judged⟩ := told
    simp only [meets_conclude, record_ok elapsed]
    exact ⟨_, rfl, judged⟩

/-- A dispatch ends in a record, and the history is as its troubles make it. -/
theorem meets_dispatch (hs : s.Orderly) {r : KeywordRegistry} (hr : r.Uninterrupted s) (keyword : String) :
    Meets s.actual (r.dispatch (some keyword)) c w fun result c' _ => ∃ x, result = .ok x ∧
      Judged (r.ownTrouble? s keyword c w) (c.failures ++ r.givenReasons s keyword c w)
        x.status x.reason c'.failures := by
  unfold KeywordRegistry.dispatch KeywordRegistry.ownTrouble? KeywordRegistry.givenReasons
  cases hl : r.resolve? (some keyword) with
  | none =>
    simp only [KeywordRegistry.reportUnknown, meets_bind, meets_contextLog, meets_contextFail,
      meets_pure, List.append_nil]
    exact ⟨_, rfl, judged_certain _ _⟩
  | some e => exact meets_runEntry hs (hr _ e hl)

end

end KeywordSuite
