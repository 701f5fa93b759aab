import KeywordSuite.Proofs.Case.Stages
import KeywordSuite.Proofs.Keyword.Dispatch

/-!
# Recording and reporting the result of a test case

The recorded result tells what is in the context, also where a fault of recording it is what it has
to tell. Reporting never fails, whatever the report and the listeners do.
-/

namespace KeywordSuite

variable {ω α : Type} {s : Surroundings ω}

/-! ## Faults of values -/

theorem ordinary_textOf (entries : Entries Value) (key : String) : Ordinary (Context.textOf entries key) := by
  unfold Context.textOf
  split
  · exact ordinary_ok none
  · exact ordinary_ok none
  · rename_i v _ _
    exact ordinary_bind (ordinary_mapError v.toText) fun text => ordinary_ok (some text)

theorem ordinary_collectMetadata (c : Context) :
    ∀ keys found, Ordinary (CaseDescriptor.collectMetadata c keys found)
  | [], found => ordinary_ok found
  | key :: keys, found => by
    refine ordinary_bind (ordinary_textOf c.scratch key) fun text => ?_
    split
    · exact ordinary_collectMetadata c keys found
    · exact ordinary_collectMetadata c keys found
    · exact ordinary_collectMetadata c keys _

theorem ordinary_checkDuration (r : CaseResult) : Ordinary r.checkDuration := by
  unfold CaseResult.checkDuration
  split
  · exact ordinary_ok r
  · intro fault h; cases h; rfl

/-! ## Reporting -/

namespace Surroundings

theorem answers_tellReport (hr : ∀ tell, s.report = some tell → ∀ call, (tell call).Ordinarily) (call : ReportCall) :
    s.Answers (KeywordSuite.tellReport call) := by
  have answers : s.Answers (SharedProcedure.perform (.report call)).attempt :=
    answers_attempt (ordinarily_tellReport hr call)
  refine answers.bind fun told => ?_
  cases told with
  | ok answer => exact answers_pure answer
  | error fault => exact (answers_log _ _).bind fun _ => answers_pure none

theorem answers_informAll (hl : ∀ l ∈ s.listeners, ∀ news, (l.tell news).Ordinarily) (news : SuiteNews) :
    ∀ n names, s.Answers (informAll news n names)
  | _, [] => answers_pure ()
  | n, name :: rest => by
    have answers : s.Answers (SharedProcedure.perform (.inform n news)).attempt :=
      answers_attempt (ordinarily_inform hl n news)
    refine answers.bind fun told => ?_
    cases told with
    | ok _ => exact answers_informAll hl news (n + 1) rest
    | error fault => exact (answers_log _ _).bind fun _ => answers_informAll hl news (n + 1) rest

theorem answers_captureFailure (hs : s.Uninterrupted) (r : CaseResult) (unit : UnitId) :
    s.Answers (CaseDescriptor.captureFailure r unit) := by
  refine (answers_attempt (ordinarily_handle hs _)).bind fun captured => ?_
  cases captured with
  | ok path => exact answers_pure path
  | error fault => exact (answers_log _ _).bind fun _ => answers_pure none

theorem answers_reportOutcome (hs : s.Uninterrupted) (listeners : List String) (r : CaseResult)
    (unit : UnitId) : s.Answers (CaseDescriptor.reportOutcome listeners r unit) := by
  have informs := answers_informAll hs.listeners (.result r) 0 listeners
  unfold CaseDescriptor.reportOutcome
  split
  · exact (answers_tellReport hs.report _).bind fun _ => informs
  · refine (answers_captureFailure hs r unit).bind fun path => ?_
    have finishes := (answers_tellReport hs.report (.finishCase .failed r.testId r.testName
      ("Test failed: " ++ r.failureReason.getD "None"))).bind fun _ => informs
    split
    · exact finishes
    · exact finishes
    · exact (answers_tellReport hs.report _).bind fun _ => finishes

theorem answers_reportExecution (hs : s.Uninterrupted) (d : CaseDescriptor) (e : KeywordExecution) :
    s.Answers (d.reportExecution e) := by
  unfold CaseDescriptor.reportExecution
  split
  · exact answers_pure ()
  · exact (answers_tellReport hs.report _).bind fun _ => answers_pure ()
  · exact (answers_tellReport hs.report _).bind fun _ => answers_pure ()

theorem meets_answers {p : SharedProcedure α} {st : CaseState} {w : World ω} (hp : s.Answers p) :
    Meets s.actual (CaseProcedure.shared p) st w fun r st' w' =>
      (∃ a, r = .ok a ∧ (s.perform p).run w = (.ok a, w')) ∧ st' = st ∧ s.Later w w' := by
  refine meets_onContext.2 (meets_shared.2 ((keeps_run (keeps_later (hp w))).mono ?_))
  intro r w' told
  obtain ⟨run_eq, later, a, rfl⟩ := told
  exact ⟨⟨a, rfl, run_eq⟩, rfl, later⟩

theorem perform_eq_of_shared {p : SharedProcedure α} {st st' : CaseState} {w w' : World ω}
    {r : Except Fault α}
    (h : (StateT.run (ExceptT.run (CaseProcedure.shared p)) st).run s.handle w = ((r, st'), w')) :
    (s.perform p).run w = (r, w') := by
  have run_eq := congrArg (fun q => Program.run s.handle q w) (CaseProcedure.run_shared p st)
  have unbound := run_eq.trans (Program.run_bind s.handle (ExceptT.run p) _ w)
  have pair := unbound.symm.trans h
  cases pair
  rfl

end Surroundings

/-! ## Recording -/

def Trouble.exception (fault : Fault) : Trouble := .certain ("Exception: " ++ fault.message)

/-- A result tells of a test case what its state holds. -/
structure CaseResult.Tells (r : CaseResult) (d : CaseDescriptor) (st : CaseState) : Prop where
  testId : r.testId = d.testId
  testName : r.testName = d.testName
  description : r.description = d.description
  ticketRef : r.ticketRef = d.ticketRef
  status : r.status = if st.context.passed then .passed else .failed
  reason : r.failureReason = st.context.failureReason
  history : r.failureHistory = st.context.failures
  keywords : r.keywords = st.executions

section

variable {st : CaseState} {w : World ω}

theorem meets_casePerform {op : SharedOp} {post : Except Fault op.Reply → CaseState → World ω → Prop} :
    Meets s.actual (CaseProcedure.perform op) st w post ↔
      post ((s.handle op).run w).1 st ((s.handle op).run w).2 :=
  meets_onContext.trans meets_handled

theorem meets_caseFail {post : Except Fault Unit → CaseState → World ω → Prop} (reason : String) :
    Meets s.actual (CaseProcedure.fail reason) st w post ↔
      post (.ok ()) { st with context := st.context.fail reason }
        (s.logged .error ("Test failed: " ++ reason) w) :=
  meets_onContext.trans (meets_contextFail reason)

theorem meets_caseLog {post : Except Fault Unit → CaseState → World ω → Prop} (level : LogLevel)
    (message : String) : Meets s.actual (CaseProcedure.log level message) st w post ↔
      post (.ok ()) st (s.logged level message w) := meets_casePerform

theorem meets_caseNow {post : Except Fault Timestamp → CaseState → World ω → Prop} :
    Meets s.actual (CaseProcedure.perform .now) st w post ↔ post (.ok (s.now w.outer)) st w :=
  meets_casePerform

theorem meets_caseStopwatch {post : Except Fault Float → CaseState → World ω → Prop} :
    Meets s.actual (CaseProcedure.perform .stopwatch) st w post ↔
      post (.ok (s.stopwatch w.outer)) st w := meets_casePerform

end

namespace CaseDescriptor

variable (d : CaseDescriptor) {st : CaseState} {w : World ω}

variable (s) in
/-- The fault that recording the result in a state meets, if it meets one. -/
def recordFault? (keys : List String) (startedAt : Timestamp) (start : Float) (st : CaseState)
    (w : World ω) : Option Fault :=
  match ((d.buildResult keys startedAt start).run st).run s.handle w with
  | ((.ok _, _), _) => none
  | ((.error fault, _), _) => some fault

theorem tells_result (metadata : Entries String) (startedAt completedAt : Timestamp) (seconds : Float)
    {status : CaseStatus} (h : status = if st.context.passed then .passed else .failed) :
    (d.result st.context st.executions metadata startedAt completedAt seconds status).Tells d st :=
  ⟨rfl, rfl, rfl, rfl, h, rfl, rfl, rfl⟩

theorem checkDuration_eq_self {r res : CaseResult} (h : r.checkDuration = .ok res) : res = r := by
  unfold CaseResult.checkDuration at h
  split at h
  · cases h; rfl
  · cases h

theorem meets_buildResult (keys : List String) (startedAt : Timestamp) (start : Float) :
    Meets s.actual (d.buildResult keys startedAt start) st w fun r st' w' =>
      st' = st ∧ w' = w ∧ Ordinary r ∧ ∀ res, r = .ok res → res.Tells d st := by
  unfold buildResult
  rw [meets_bind, meets_get]
  dsimp only
  rw [meets_bind, meets_ofExcept]
  have collected := ordinary_collectMetadata st.context keys []
  cases hm : collectMetadata st.context keys [] with
  | error fault =>
    refine ⟨rfl, rfl, ?_, fun res h => by cases h⟩
    intro other h
    cases h
    exact collected fault hm
  | ok metadata =>
    dsimp only
    rw [meets_bind, meets_caseNow]
    dsimp only
    rw [meets_bind, meets_caseStopwatch]
    dsimp only
    rw [meets_ofExcept]
    refine ⟨rfl, rfl, ordinary_checkDuration _, fun res h => ?_⟩
    rw [checkDuration_eq_self h]
    exact d.tells_result metadata _ _ _ rfl

/-- Where the stopwatch never goes back, the result of a failed recording can always be made. -/
theorem meets_buildFailure (hs : s.Orderly) {w₀ : World ω} (later : s.Later w₀ w)
    (failed : st.context.passed = false) (startedAt : Timestamp) :
    Meets s.actual (d.buildFailure startedAt (s.stopwatch w₀.outer)) st w fun r st' _ =>
      st' = st ∧ ∃ res, r = .ok res ∧ res.Tells d st := by
  unfold buildFailure
  rw [meets_bind, meets_get]
  dsimp only
  rw [meets_bind, meets_caseNow]
  dsimp only
  rw [meets_bind, meets_caseStopwatch]
  dsimp only
  rw [meets_ofExcept]
  refine ⟨rfl, _, if_pos (hs.steady w₀ w later), d.tells_result _ _ _ _ ?_⟩
  rw [failed]
  rfl

theorem meets_recordResult (hs : s.Orderly) {w₀ : World ω} (later : s.Later w₀ w) (keys : List String)
    (startedAt : Timestamp) :
    Meets s.actual (d.recordResult keys startedAt (s.stopwatch w₀.outer)) st w fun r st' _ =>
      ∃ res, r = .ok res ∧ res.Tells d st' ∧ st'.executions = st.executions ∧
        st'.context.failures = Trouble.addAll st.context.failures
          ((d.recordFault? s keys startedAt (s.stopwatch w₀.outer) st w).map Trouble.exception).toList := by
  unfold recordResult recordFault?
  rw [meets_bind, meets_caseAttempt]
  refine (Surroundings.meets_run (d.meets_buildResult keys startedAt _)).mono ?_
  intro r st' w' told
  obtain ⟨hr, rfl, rfl, ordinary, tells⟩ := told
  have run_eq : ((d.buildResult keys startedAt (s.stopwatch w₀.outer)).run st').run s.handle w' =
      ((r, st'), w') := hr
  rw [run_eq, settled_of_ordinary ordinary]
  cases r with
  | ok res => exact ⟨res, rfl, tells res rfl, rfl, rfl⟩
  | error fault =>
    dsimp only
    rw [meets_bind, meets_caseLog]
    dsimp only
    rw [meets_bind, meets_caseFail]
    dsimp only
    have failed : (st'.context.fail ("Exception: " ++ fault.message)).passed = false := by
      simp [Context.fail, Context.passed]
    refine (d.meets_buildFailure hs ((later.step (.log _ _)).step (.log _ _)) failed startedAt).mono ?_
    intro _ _ _ told
    obtain ⟨rfl, res, rfl, tells⟩ := told
    exact ⟨res, rfl, tells, rfl, rfl⟩

end CaseDescriptor

end KeywordSuite
