import KeywordSuite.Proofs.Case.Silence
import KeywordSuite.Proofs.Keyword.Assembly

/-!
# What a listener learns from a test case

Listeners are told of results where the outcome of a test case is reported, and nowhere else. So where no keyword
informs it, a listener has learned one result from a test case that has come to one.
-/

namespace KeywordSuite

/-! ## What is told to a listener -/

namespace SharedOp

/-- Nothing is told to a listener. -/
def PassesBy (listener : Nat) (op : SharedOp) : Prop := ∀ n news, op = .inform n news → n ≠ listener

/-- The results that are told to a listener. -/
def teaches (listener : Nat) : SharedOp → List CaseResult
  | .inform n (.result r) => if n = listener then [r] else []
  | _ => []

variable {listener : Nat} {op : SharedOp}

theorem passesBy_of_silent (silent : op.isTelling = false) : op.PassesBy listener := by
  rintro n news rfl
  cases silent

theorem PassesBy.teaches (passes : op.PassesBy listener) : op.teaches listener = [] := by
  unfold SharedOp.teaches
  split
  · exact if_neg (passes _ _ rfl)
  · rfl

end SharedOp

/-- The protocol of a test case, whose stage is what a listener has learned; no summary is told to it. -/
def learning (listener : Nat) : Protocol SharedOp.Reply (List CaseResult) where
  begins learned op next := (∀ summary, op ≠ .inform listener (.finished summary)) ∧ next = learned ++ op.teaches listener
  answers _ _ _ := True
  next next _ _ := next

def KeywordOp.PassesBy (listener : Nat) : KeywordOp → Prop
  | .shared op => op.PassesBy listener
  | _ => True

/-- No keyword of the registry informs a listener. -/
def KeywordRegistry.PassesBy (listener : Nat) (r : KeywordRegistry) : Prop :=
  ∀ name e, r.resolve? name = some e → ∀ id, Procedure.Only (KeywordOp.PassesBy listener) (e.body id)

theorem KeywordOp.passesBy_of_drives {listener : Nat} {op : KeywordOp} (drives : op.drives = true) :
    op.PassesBy listener := by
  cases op with
  | shared op =>
    rintro n news rfl
    cases drives
  | _ => trivial

theorem BrowserKeyword.passesBy_of_isBuiltIn {e : KeywordEntry} (h : IsBuiltIn e.body) (listener : Nat) (id : CaseIdentity) :
    Procedure.Only (KeywordOp.PassesBy listener) (e.body id) :=
  Program.Only.mono (fun _ => KeywordOp.passesBy_of_drives) (assembled_of_isBuiltIn h id).drives

/-! ## Procedures that tell a listener nothing -/

section

variable {σ α β : Type} {listener : Nat} {learned : List CaseResult}

/-- Whatever it is answered, a procedure tells a listener nothing. -/
def Bypasses (listener : Nat) (p : ExceptT Fault (StateT σ (Program SharedOp.Reply)) α) : Prop :=
  ∀ x, (StateT.run (ExceptT.run p) x).Only (SharedOp.PassesBy listener)

theorem bypasses_pure (a : α) : Bypasses listener (pure a : ExceptT Fault (StateT σ (Program SharedOp.Reply)) α) :=
  fun _ => trivial

theorem bypasses_get : Bypasses listener (get : ExceptT Fault (StateT σ (Program SharedOp.Reply)) σ) := fun _ => trivial

theorem bypasses_modify (f : σ → σ) :
    Bypasses listener (modify f : ExceptT Fault (StateT σ (Program SharedOp.Reply)) PUnit) := fun _ => trivial

theorem Bypasses.bind {p : ExceptT Fault (StateT σ (Program SharedOp.Reply)) α}
    {f : α → ExceptT Fault (StateT σ (Program SharedOp.Reply)) β} (hp : Bypasses listener p)
    (hf : ∀ a, Bypasses listener (f a)) : Bypasses listener (p >>= f) := by
  intro x
  refine Program.Only.bind (fun r => ?_) (hp x)
  obtain ⟨_ | a, y⟩ := r
  · exact trivial
  · exact hf a y

theorem ProgramSilent.passesBy {p : Program SharedOp.Reply α} (silent : p.Keeps silentProtocol () fun _ _ => True) :
    p.Only (SharedOp.PassesBy listener) := by
  induction p with
  | done a => exact trivial
  | call op resume ih =>
    obtain ⟨_, quiet, rest⟩ := silent
    exact ⟨SharedOp.passesBy_of_silent quiet, fun reply => ih reply (rest reply trivial)⟩

theorem Silent.bypasses {p : ExceptT Fault (StateT σ (Program SharedOp.Reply)) α} (silent : Silent p) :
    Bypasses listener p := fun x => ProgramSilent.passesBy (silent x)

/-! ## What a listener learns on the way -/

theorem keeps_learning_of_only {p : Program SharedOp.Reply α} (only : p.Only (SharedOp.PassesBy listener)) :
    p.Keeps (learning listener) learned fun _ next => next = learned := by
  induction p with
  | done a => exact rfl
  | call op resume ih =>
    obtain ⟨passes, rest⟩ := only
    refine ⟨learned, ⟨fun summary same => passes listener _ same rfl, ?_⟩, fun reply _ => ih reply (rest reply)⟩
    rw [passes.teaches, List.append_nil]

/-- What is done first tells the listener nothing. -/
theorem Procedure.Only.keeps_then {p : SharedProcedure α} {f : α → SharedProcedure β}
    {post : Except Fault β → List CaseResult → Prop} (first : Procedure.Only (SharedOp.PassesBy listener) p)
    (stops : ∀ fault, post (.error fault) learned)
    (rest : ∀ a, (ExceptT.run (f a)).Keeps (learning listener) learned post) :
    (ExceptT.run (p >>= f)).Keeps (learning listener) learned post := by
  refine keeps_seq.2 (Program.Keeps.mono (fun r next same => ?_) (keeps_learning_of_only first))
  subst same
  cases r with
  | ok a => exact rest a
  | error fault => exact stops fault

theorem Bypasses.meets {p : ExceptT Fault (StateT σ (Program SharedOp.Reply)) α} (hp : Bypasses listener p) (x : σ) :
    Meets (learning listener) p x learned fun _ _ next => next = learned := keeps_learning_of_only (hp x)

theorem Bypasses.meets_then {p : ExceptT Fault (StateT σ (Program SharedOp.Reply)) α}
    {f : α → ExceptT Fault (StateT σ (Program SharedOp.Reply)) β} {x : σ}
    {post : Except Fault β → σ → List CaseResult → Prop} (first : Bypasses listener p)
    (stops : ∀ fault y, post (.error fault) y learned) (rest : ∀ a y, Meets (learning listener) (f a) y learned post) :
    Meets (learning listener) (p >>= f) x learned post := by
  refine (meets_bind p f post).2 ((first.meets x).mono fun r y next same => ?_)
  subst same
  cases r with
  | ok a => exact rest a y
  | error fault => exact stops fault y

end

section

variable {α : Type} {listener : Nat}

theorem bypasses_perform {op : SharedOp} (passes : op.PassesBy listener) : Bypasses listener (ContextProcedure.perform op) :=
  fun _ => ⟨passes, fun _ => trivial⟩

theorem bypasses_attempt {p : ContextProcedure α} (hp : Bypasses listener p) : Bypasses listener p.attempt := by
  intro c
  refine Program.Only.bind (fun r => ?_) (hp c)
  obtain ⟨_ | _, _⟩ := r <;> exact trivial

theorem bypasses_onContext {p : ContextProcedure α} (hp : Bypasses listener p) :
    Bypasses listener (CaseProcedure.onContext p) := by
  intro st
  refine Program.Only.bind (fun r => ?_) (hp st.context)
  exact trivial

theorem bypasses_caseShared {p : SharedProcedure α} (only : Procedure.Only (SharedOp.PassesBy listener) p) :
    Bypasses listener (CaseProcedure.shared p) := by
  refine bypasses_onContext fun c => Program.Only.bind (fun r => ?_) only
  exact trivial

theorem bypasses_casePerform {op : SharedOp} (passes : op.PassesBy listener) :
    Bypasses listener (CaseProcedure.perform op) := bypasses_onContext (bypasses_perform passes)

theorem bypasses_caseAttempt {p : CaseProcedure α} (hp : Bypasses listener p) : Bypasses listener p.attempt := by
  intro st
  refine Program.Only.bind (fun r => ?_) (hp st)
  obtain ⟨_ | _, _⟩ := r <;> exact trivial

theorem passesBy_log (level : LogLevel) (message : String) : (SharedOp.log level message).PassesBy listener :=
  SharedOp.passesBy_of_silent rfl

theorem passesBy_report (call : ReportCall) : (SharedOp.report call).PassesBy listener :=
  fun _ _ never => by cases never

/-! ## Dispatching keywords that tell a listener nothing -/

theorem bypasses_serve {op : KeywordOp} (passes : op.PassesBy listener) : Bypasses listener op.serve := by
  cases op with
  | fail reason => exact (silent_contextFail reason).bypasses
  | cleanUp => exact silent_cleanUp.bypasses
  | shared op => exact bypasses_perform passes
  | addInput | put | attach => exact bypasses_modify _
  | input | scratch | attached | passed => exact bypasses_get.bind fun _ => bypasses_pure _

theorem bypasses_runIn {p : KeywordProcedure α} (only : Procedure.Only (KeywordOp.PassesBy listener) p) :
    Bypasses listener p.runIn := by
  suffices runs : ∀ {β : Type} (p : Program KeywordOp.Reply β), p.Only (KeywordOp.PassesBy listener) →
      ∀ c, (KeywordOp.runProgram p c).Only (SharedOp.PassesBy listener) from runs _ only
  intro β p only
  induction p with
  | done a => exact fun _ => trivial
  | call op resume ih =>
    obtain ⟨passes, rest⟩ := only
    intro c
    refine Program.Only.bind (fun r => ?_) (bypasses_serve passes c)
    exact ih r.1 (rest r.1) r.2

theorem bypasses_runEntry {e : KeywordEntry} (h : ∀ id, Procedure.Only (KeywordOp.PassesBy listener) (e.body id)) :
    Bypasses listener (KeywordRegistry.runEntry e) := by
  have logs : ∀ level message, Bypasses listener (ContextProcedure.log level message) :=
    fun _ _ => bypasses_perform (passesBy_log _ _)
  have watch : Bypasses listener (ContextProcedure.perform .stopwatch) :=
    bypasses_perform (SharedOp.passesBy_of_silent rfl)
  unfold KeywordRegistry.runEntry
  refine (logs _ _).bind fun _ => watch.bind fun start => bypasses_get.bind fun c => ?_
  refine (bypasses_attempt (bypasses_runIn (h c.identity))).bind fun outcome => watch.bind fun stop => ?_
  cases outcome with
  | error fault =>
    refine (logs _ _).bind fun _ => (silent_contextFail _).bypasses.bind fun _ => ?_
    exact (silent_conclude _).bypasses
  | ok returned =>
    refine (logs _ _).bind fun _ => (silent_judge e returned).bypasses.bind fun _ => ?_
    exact (silent_conclude _).bypasses

theorem bypasses_dispatch {registry : KeywordRegistry} (h : registry.PassesBy listener) (name : Option String) :
    Bypasses listener (registry.dispatch name) := by
  unfold KeywordRegistry.dispatch
  split
  · refine Bypasses.bind (bypasses_perform (passesBy_log _ _)) fun _ => ?_
    exact (silent_contextFail _).bypasses.bind fun _ => bypasses_pure _
  · rename_i e found
    exact bypasses_runEntry (h name e found)

end

/-! ## The stages of a test case -/

section

variable (d : CaseDescriptor) {registry : KeywordRegistry} {listener : Nat} (h : registry.PassesBy listener)
include h

theorem bypasses_runKeywords : ∀ keywords, Bypasses listener (d.runKeywords registry keywords)
  | [] => bypasses_pure ()
  | v :: rest => by
    refine (silent_ofExcept _).bypasses.bind fun text => ?_
    cases text with
    | none => exact bypasses_runKeywords rest
    | some keyword =>
      refine (bypasses_caseShared (only_tellReport passesBy_log (passesBy_report _))).bind fun _ => ?_
      refine (bypasses_onContext (bypasses_dispatch h _)).bind fun e => (bypasses_modify _).bind fun _ => ?_
      refine (bypasses_caseShared (only_reportExecution passesBy_log passesBy_report d e)).bind fun _ => ?_
      refine bypasses_get.bind fun st => ?_
      split
      · exact bypasses_casePerform (passesBy_log _ _)
      · exact bypasses_runKeywords rest

theorem bypasses_attemptKeywords : Bypasses listener (d.attemptKeywords registry) := by
  have executes : Bypasses listener (d.execute registry) := by
    refine Bypasses.bind (bypasses_casePerform (SharedOp.passesBy_of_silent rfl)) fun data => ?_
    refine (bypasses_modify _).bind fun _ => ?_
    refine Bypasses.bind (bypasses_casePerform (SharedOp.passesBy_of_silent rfl)) fun keywords => ?_
    split
    · exact (silent_caseFail _).bypasses
    · exact bypasses_runKeywords d h _
  refine (bypasses_caseAttempt executes).bind fun executed => ?_
  cases executed with
  | ok _ => exact bypasses_pure ()
  | error fault => exact Bypasses.bind (bypasses_casePerform (passesBy_log _ _)) fun _ => (silent_caseFail _).bypasses

end

section

variable {listener : Nat} {learned : List CaseResult}

/-- Listeners are told from a number on, one after the other. -/
theorem keeps_informAll_learning (r : CaseResult) : ∀ (names : List String) (n : Nat) (learned : List CaseResult),
    (ExceptT.run (informAll (.result r) n names)).Keeps (learning listener) learned fun told next =>
      told = .ok () → next = learned ++ if n ≤ listener ∧ listener < n + names.length then [r] else []
  | [], n, learned => by
    intro _
    rw [if_neg (by rw [List.length_nil]; omega), List.append_nil]
  | name :: rest, n, learned => by
    have tells : ∀ summary, SharedOp.inform n (.result r) ≠ .inform listener (.finished summary) :=
      fun _ never => by cases never
    have here_or_later : SharedOp.teaches listener (.inform n (.result r)) ++
        (if n + 1 ≤ listener ∧ listener < n + 1 + rest.length then [r] else []) =
          if n ≤ listener ∧ listener < n + (name :: rest).length then [r] else [] := by
      rw [List.length_cons, SharedOp.teaches]
      by_cases here : n = listener
      · rw [if_pos here, if_neg (by omega), if_pos (by omega), List.append_nil]
      · rw [if_neg here, List.nil_append]
        exact ite_congr (propext (by omega)) (fun _ => rfl) fun _ => rfl
    have others : (ExceptT.run (informAll (.result r) (n + 1) rest)).Keeps (learning listener)
        (learned ++ SharedOp.teaches listener (.inform n (.result r))) fun told next =>
          told = .ok () → next = learned ++ if n ≤ listener ∧ listener < n + (name :: rest).length then [r] else [] := by
      refine Program.Keeps.mono (fun told next ended came => ?_) (keeps_informAll_learning r rest (n + 1) _)
      rw [ended came, List.append_assoc, here_or_later]
    refine keeps_seq.2 (keeps_attempt.2 (keeps_perform.2 ⟨_, ⟨tells, rfl⟩, fun reply _ => ?_⟩))
    obtain ⟨-, whole⟩ | ⟨fault, -, stops⟩ := settled_cases reply
    · rw [whole]
      cases reply with
      | ok _ => exact others
      | error fault =>
        refine Procedure.Only.keeps_then (Procedure.only_perform (passesBy_log _ _)) ?_ fun _ => others
        exact fun _ never => by cases never
    · rw [stops]
      exact fun never => by cases never

/-- Reporting the outcome of a test case tells its result to every listener. -/
theorem keeps_reportOutcome_learning {listeners : List String} (inside : listener < listeners.length) (r : CaseResult)
    (u : UnitId) : (ExceptT.run (CaseDescriptor.reportOutcome listeners r u)).Keeps (learning listener) learned
      fun told next => told = .ok () → next = learned ++ [r] := by
  have stops : ∀ fault : Fault, (.error fault : Except Fault Unit) = .ok () → learned = learned ++ [r] :=
    fun _ never => by cases never
  have tells : ∀ call, Procedure.Only (SharedOp.PassesBy listener) (tellReport call) :=
    fun call => only_tellReport passesBy_log (passesBy_report call)
  have finishes : ∀ call, (ExceptT.run (do
      let _ ← tellReport call
      informAll (.result r) 0 listeners)).Keeps (learning listener) learned fun told next =>
        told = .ok () → next = learned ++ [r] := by
    refine fun call => (tells call).keeps_then stops fun _ => ?_
    refine Program.Keeps.mono (fun told next ended came => ?_) (keeps_informAll_learning r listeners 0 learned)
    rw [ended came, if_pos ⟨Nat.zero_le _, by omega⟩]
  unfold CaseDescriptor.reportOutcome
  split
  · exact finishes _
  · refine (only_captureFailure passesBy_log (SharedOp.passesBy_of_silent rfl)).keeps_then stops fun path => ?_
    split
    · exact finishes _
    · exact finishes _
    · exact (tells _).keeps_then stops fun _ => finishes _

end

/-! ## The whole test case -/

/-- What was learned from a test case that has come to a result is that result. -/
def LearnedAll (r : Except Fault CaseResult) (learned : List CaseResult) : Prop :=
  ∀ result, r = .ok result → learned = [result]

theorem learnedAll_error (fault : Fault) (learned : List CaseResult) : LearnedAll (.error fault) learned :=
  fun _ never => by cases never

namespace CaseDescriptor

variable (d : CaseDescriptor) {plan : SuitePlan} {listener : Nat} (h : plan.registry.PassesBy listener)
  (inside : listener < plan.listeners.length)
include h inside

theorem meets_stages_learning (u : UnitId) (startedAt : Timestamp) (start : Float) (st : CaseState) :
    Meets (learning listener) (d.stages plan u startedAt start) st [] fun r _ learned => LearnedAll r learned := by
  have stops : ∀ (fault : Fault) (st : CaseState), LearnedAll (.error fault) [] := fun fault _ => learnedAll_error fault []
  unfold stages
  refine (bypasses_attemptKeywords d h).meets_then stops fun _ st => ?_
  refine (silent_recordResult d _ _ _).bypasses.meets_then stops fun r st => ?_
  rw [meets_bind]
  refine meets_onContext.2 (meets_shared.2 (Program.Keeps.mono (fun told learned ended => ?_)
    (keeps_reportOutcome_learning inside r u)))
  cases told with
  | error fault => exact learnedAll_error fault learned
  | ok _ =>
    intro result same
    cases same
    exact ended rfl

/-- What a listener has learned in the end from a test case that has come to a result is that result. -/
theorem keeps_run_learning (u : UnitId) :
    (ExceptT.run (d.run plan u)).Keeps (learning listener) [] fun r learned => LearnedAll r learned := by
  have stops : ∀ (fault : Fault) (st : CaseState), LearnedAll (.error fault) [] := fun fault _ => learnedAll_error fault []
  have opens : Procedure.Only (SharedOp.PassesBy listener) d.opening := by
    have reads : ∀ op : SharedOp, op.isTelling = false →
        Procedure.Only (SharedOp.PassesBy listener) (SharedProcedure.perform op) :=
      fun _ silent => Procedure.only_perform (SharedOp.passesBy_of_silent silent)
    refine (reads .now rfl).bind fun _ => (reads .stopwatch rfl).bind fun _ => ?_
    refine Procedure.Only.bind (reads (.log ..) rfl) fun _ => ?_
    exact (only_tellReport passesBy_log (passesBy_report _)).bind fun _ => Procedure.only_pure _
  have met : Meets (learning listener) (d.runWith plan u) (d.freshState u) [] fun r _ learned => LearnedAll r learned := by
    rw [runWith_eq_stages]
    refine (bypasses_caseShared opens).meets_then stops fun times st => ?_
    rw [meets_bind, meets_andFinally]
    refine (meets_stages_learning d h inside u _ _ st).mono fun r st learned ended => ?_
    refine ((silent_release u).bypasses.meets st).mono fun r' st next same => ?_
    subst same
    cases r' with
    | error fault => exact learnedAll_error fault next
    | ok _ =>
      cases r with
      | error fault => exact learnedAll_error fault next
      | ok result =>
        refine Bypasses.meets_then (bypasses_casePerform (passesBy_log _ _)) (fun fault _ => learnedAll_error fault next) ?_
        exact fun _ _ => ended
  exact (Program.keeps_bind ((d.runWith plan u).run (d.freshState u)) _ _ _).2
    (Program.Keeps.mono (fun _ _ learned => learned) met)

end CaseDescriptor

end KeywordSuite
