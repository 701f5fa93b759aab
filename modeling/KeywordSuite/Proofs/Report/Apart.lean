import Mathlib.Data.List.Induction
import Mathlib.Logic.Function.Basic
import KeywordSuite.Proofs.Report.Marks
import KeywordSuite.Proofs.Report.Masking

/-!
# The test cases of a report kept apart

Whatever the order in which several threads tell a report of their test cases, the record of each is the one
that is left by the calls about it alone. Records stand in the order in which their test cases were first told
of, and a suite that begins leaves nothing of the one before.
-/

namespace KeywordSuite

/-! ## Calls of several threads -/

/-- All that some threads do, in an order that keeps the order of each. -/
inductive Interleaves {ι α : Type} [DecidableEq ι] : (ι → List α) → List α → Prop
  | done {threads : ι → List α} (idle : ∀ i, threads i = []) : Interleaves threads []
  | turn {threads : ι → List α} {i : ι} {x : α} {rest merged : List α} (next : threads i = x :: rest)
      (others : Interleaves (Function.update threads i rest) merged) : Interleaves threads (x :: merged)

/-- What only one thread does is done in the order of that thread. -/
theorem Interleaves.filter_eq {ι α : Type} [DecidableEq ι] {threads : ι → List α} {merged : List α} {p : α → Bool} {i : ι}
    (h : Interleaves threads merged) (only : ∀ j, j ≠ i → ∀ x ∈ threads j, p x = false) :
    merged.filter p = (threads i).filter p := by
  induction h with
  | done idle => rw [idle i]
  | @turn threads j x rest merged next _ ih =>
    by_cases here : j = i
    · subst here
      have later := ih fun k other y held => only k other y (by rwa [Function.update_of_ne other] at held)
      rw [Function.update_self] at later
      rw [next, List.filter_cons, List.filter_cons, later]
    · have apart : p x = false := only j here x (by rw [next]; exact List.mem_cons_self)
      have later : merged.filter p = (Function.update threads j rest i).filter p := by
        refine ih fun k other y held => ?_
        by_cases same : k = j
        · subst same
          rw [Function.update_self] at held
          exact only k other y (by rw [next]; exact List.mem_cons_of_mem _ held)
        · rw [Function.update_of_ne same] at held
          exact only k other y held
      rw [Function.update_of_ne (Ne.symm here)] at later
      rw [List.filter_cons, apart, later]
      rfl

/-! ## What a call does to records -/

theorem Entries.eq_singleton {α : Type} {entries : Entries α} {key : String} {value : α} (only : entries.keys = [key])
    (found : entries.get? key = some value) : entries = [(key, value)] := by
  obtain ⟨entry, rfl, first⟩ := List.map_eq_singleton_iff.1 only
  obtain ⟨name, held⟩ := entry
  obtain rfl : name = key := first
  rw [Entries.get?_cons, if_pos rfl] at found
  rw [Option.some.inj found]

/-- What is said about a test case goes into a record that depends on its record alone. -/
theorem ReportCases.exists_change_eq_set (testId testName : String) (f : ReportCase → ReportCase)
    (found : Option ReportCase) :
    ∃ c, ∀ cases : ReportCases, cases.get? testId = found → cases.change testId testName f = Entries.set cases testId c :=
  ⟨f (found.getD _), fun cases here => by rw [← here]; rfl⟩

namespace Told

/-- Whether a call is about a test case. -/
def isAbout (testId : String) (m : Told) : Bool := m.call.testId? == some testId

theorem isAbout_iff {testId : String} {m : Told} : m.isAbout testId = true ↔ m.call.testId? = some testId := beq_iff_eq

end Told

namespace HtmlReport

variable (settings : Settings)

/-- What one more call makes of a report. -/
def tell (r : HtmlReport) (m : Told) : HtmlReport := update settings m.working m.now r m.call

theorem after_append (told more : List Told) :
    after settings (told ++ more) = more.foldl (tell settings) (after settings told) := List.foldl_append

variable {settings} {r r' : HtmlReport} {m : Told} {testId : String}

/-- A call about a test case gives it a record that depends on its record alone. -/
theorem exists_tell_eq_set (about : m.call.testId? = some testId) (found : Option ReportCase) :
    ∃ c, ∀ r, r.cases.get? testId = found → (tell settings r m).cases = r.cases.set testId c := by
  obtain ⟨working, now, call⟩ := m
  cases call with
  | beginSuite | endSuite => cases about
  | beginCase testId testName description =>
    cases about
    exact ⟨_, fun r _ => rfl⟩
  | log level testId testName message =>
    cases about
    let e : ReportEntry := ⟨clockTime now, level, sanitize settings message⟩
    exact (ReportCases.exists_change_eq_set testId testName (fun c => { c with entries := c.entries ++ [e] }) found).imp
      fun _ changes r here => changes r.cases here
  | attach testId testName path caption =>
    cases about
    let a : ReportArtifact := ⟨linkTo settings working path, caption⟩
    exact (ReportCases.exists_change_eq_set testId testName (fun c => { c with artifacts := c.artifacts ++ [a] }) found).imp
      fun _ changes r here => changes r.cases here
  | finishCase status testId testName details =>
    cases about
    exact (ReportCases.exists_change_eq_set testId testName
      (fun c => { c with mark := .ofStatus status, details := sanitize settings details }) found).imp
      fun _ changes r here => changes r.cases here

theorem tell_other (none : m.call.testId? = none) (going : m.call ≠ .beginSuite) : tell settings r m = r := by
  obtain ⟨working, now, call⟩ := m
  cases call with
  | beginSuite => exact absurd rfl going
  | endSuite => rfl
  | beginCase | log | attach | finishCase => cases none

theorem tell_filed (filed : r.cases.Filed) : (tell settings r m).cases.Filed := by
  cases about : m.call.testId? with
  | some testId => exact (next_update settings m.working m.now r about).filed filed
  | none =>
    by_cases going : m.call = .beginSuite
    · unfold tell
      rw [going]
      exact ReportCases.filed_nil
    · rwa [tell_other about going]

/-- What a call says of one test case depends on nothing but the record of that one. -/
theorem get?_tell (going : m.call ≠ .beginSuite) (same : r.cases.get? testId = r'.cases.get? testId) :
    (tell settings r m).cases.get? testId = if m.isAbout testId then (tell settings r' m).cases.get? testId
      else r'.cases.get? testId := by
  cases about : m.call.testId? with
  | none =>
    have apart : m.isAbout testId = false := by simp [Told.isAbout, about]
    rw [tell_other about going, apart]
    exact same
  | some other =>
    obtain ⟨c, sets⟩ : ∃ c, ∀ r', r'.cases.get? other = r.cases.get? other →
        (tell settings r' m).cases = r'.cases.set other c := exists_tell_eq_set about _
    rw [sets r rfl, Entries.get?_set]
    by_cases here : testId = other
    · subst here
      have mine : m.isAbout testId = true := Told.isAbout_iff.2 about
      rw [if_pos rfl, if_pos mine, sets r' same.symm, Entries.get?_set, if_pos rfl]
    · have apart : ¬ m.isAbout testId = true := by
        rw [Told.isAbout_iff, about, Option.some_inj]
        exact Ne.symm here
      rw [if_neg here, if_neg apart]
      exact same

theorem keys_tell (going : m.call ≠ .beginSuite) :
    (tell settings r m).cases.keys = r.cases.keys ++ (m.call.testId?.toList.removeAll r.cases.keys) := by
  cases about : m.call.testId? with
  | none =>
    rw [tell_other about going]
    exact (List.append_nil _).symm
  | some testId =>
    obtain ⟨c, sets⟩ : ∃ c, ∀ r', r'.cases.get? testId = r.cases.get? testId →
        (tell settings r' m).cases = r'.cases.set testId c := exists_tell_eq_set about _
    rw [sets r rfl, Entries.keys_set_eq_append, Option.toList_some]

/-! ## What many calls do to records -/

/-- The test cases that some calls are about, each once, in the order of their first calls. -/
def testIds (calls : List Told) : List String := (calls.filterMap fun m => m.call.testId?).eraseDups

variable {calls : List Told} (going : ∀ m ∈ calls, m.call ≠ .beginSuite)
include going

theorem foldl_tell_frame : (calls.foldl (tell settings) r).startedAt = r.startedAt ∧
    (calls.foldl (tell settings) r).path = r.path := by
  induction calls generalizing r with
  | nil => exact ⟨rfl, rfl⟩
  | cons m calls ih =>
    obtain ⟨first, others⟩ := List.forall_mem_cons.1 going
    have kept : (tell settings r m).startedAt = r.startedAt ∧ (tell settings r m).path = r.path := by
      obtain ⟨working, now, call⟩ := m
      cases call with
      | beginSuite => exact absurd rfl first
      | beginCase | log | attach | finishCase | endSuite => exact ⟨rfl, rfl⟩
    obtain ⟨startedAt, path⟩ := ih (r := tell settings r m) others
    exact ⟨startedAt.trans kept.1, path.trans kept.2⟩

omit going in
theorem foldl_tell_filed (filed : r.cases.Filed) : (calls.foldl (tell settings) r).cases.Filed := by
  induction calls generalizing r with
  | nil => exact filed
  | cons m calls ih => exact ih (tell_filed filed)

/-- The record of a test case is the one left by the calls about it alone. -/
theorem get?_foldl_tell (same : r.cases.get? testId = r'.cases.get? testId) :
    (calls.foldl (tell settings) r).cases.get? testId =
      ((calls.filter (Told.isAbout testId)).foldl (tell settings) r').cases.get? testId := by
  induction calls generalizing r r' with
  | nil => exact same
  | cons m calls ih =>
    obtain ⟨first, others⟩ := List.forall_mem_cons.1 going
    have here : (tell settings r m).cases.get? testId = _ := get?_tell first same
    rw [List.foldl_cons, List.filter_cons]
    by_cases about : m.isAbout testId = true
    · rw [if_pos about] at here ⊢
      exact ih others here
    · rw [if_neg about] at here ⊢
      exact ih others here

theorem keys_foldl_tell (fresh : r.cases = []) : (calls.foldl (tell settings) r).cases.keys = testIds calls :=
  keys_foldl_of_new (fun r : HtmlReport => r.cases.keys) (·.call.testId?) (fun m held _ => keys_tell (going m held))
    (congrArg Entries.keys fresh)

/-- Told of one test case only, a report that began without records has the record of that one, or none. -/
theorem cases_filter_eq (fresh : r.cases = []) {c : ReportCase}
    (found : (calls.foldl (tell settings) r).cases.get? testId = some c) :
    (after settings (calls.filter (Told.isAbout testId))).cases = [(testId, c)] := by
  have mine : ∀ m ∈ calls.filter (Told.isAbout testId), m.call ≠ .beginSuite :=
    fun m held => going m (List.mem_of_mem_filter held)
  have alone : (after settings (calls.filter (Told.isAbout testId))).cases.get? testId = some c := by
    have same : r.cases.get? testId = (HtmlReport.cases {}).get? testId := by rw [fresh]
    rw [← found, get?_foldl_tell going same]
    rfl
  have keys : (after settings (calls.filter (Told.isAbout testId))).cases.keys = _ := keys_foldl_tell mine rfl
  have known : testId ∈ testIds (calls.filter (Told.isAbout testId)) := by
    rw [← keys]
    exact List.mem_map.2 ⟨_, Entries.mem_of_get? alone, rfl⟩
  refine Entries.eq_singleton ?_ alone
  refine keys.trans ?_
  unfold testIds at known ⊢
  have only : ∀ other ∈ (calls.filter (Told.isAbout testId)).filterMap (fun m => m.call.testId?), other = testId := by
    intro other held
    obtain ⟨m, mem, about⟩ := List.mem_filterMap.1 held
    rw [Told.isAbout_iff.1 (List.mem_filter.1 mem).2] at about
    exact (Option.some.inj about).symm
  generalize (calls.filter (Told.isAbout testId)).filterMap (fun m => m.call.testId?) = ids at known only
  cases ids with
  | nil => cases known
  | cons first rest =>
    obtain ⟨rfl, others⟩ := List.forall_mem_cons.1 only
    have none : rest.filter (fun b => !b == first) = [] :=
      List.filter_eq_nil_iff.2 fun other held => by simp [others other held]
    rw [List.eraseDups_cons, none]
    rfl

omit going in
theorem tell_begin {first : Told} (begins : first.call = .beginSuite) (r : HtmlReport) :
    tell settings r first = ⟨[], some first.now, some (fileAt settings first.now)⟩ := by
  unfold tell
  rw [begins]
  rfl

/-- What a report holds that was told of some test cases after a suite began. -/
theorem exists_records (settings : Settings) {first : Told} (begins : first.call = .beginSuite) (earlier : List Told) :
    ∃ records : ReportCases, after settings (earlier ++ first :: calls) =
        ⟨records, some first.now, some (fileAt settings first.now)⟩ ∧
      records.keys = testIds calls ∧ records.Filed ∧
      ∀ entry ∈ records, (after settings (calls.filter (Told.isAbout entry.1))).cases = [entry] := by
  rw [after_append, List.foldl_cons, tell_begin begins]
  generalize begun : HtmlReport.mk [] (some first.now) (some (fileAt settings first.now)) = r
  have fresh : r.cases = [] := by rw [← begun]
  obtain ⟨startedAt, path⟩ : (calls.foldl (tell settings) r).startedAt = r.startedAt ∧
      (calls.foldl (tell settings) r).path = r.path := foldl_tell_frame going
  have filed : (calls.foldl (tell settings) r).cases.Filed := foldl_tell_filed (by rw [fresh]; exact ReportCases.filed_nil)
  refine ⟨_, ?_, keys_foldl_tell going fresh, filed, fun entry held =>
    cases_filter_eq going fresh (Entries.get?_of_mem filed.distinct held)⟩
  rw [← begun] at startedAt path ⊢
  exact congrArg₂ (HtmlReport.mk _) startedAt path

end HtmlReport

/-- Entries that are each all there is under its key elsewhere are what is there under their keys. -/
theorem Entries.eq_flatMap_of_single {α : Type} {entries : Entries α} {alone : String → Entries α}
    (single : ∀ entry ∈ entries, alone entry.1 = [entry]) : entries = entries.keys.flatMap alone := by
  unfold Entries.keys
  rw [List.flatMap_map]
  calc
    entries = entries.flatMap fun entry => [entry] := (List.flatMap_singleton' entries).symm
    _ = entries.flatMap fun entry => alone entry.1 := List.flatMap_congr fun entry held => (single entry held).symm

/-! ## The report of a suite -/

open HtmlReport

/--
After a suite has begun, several threads tell its report of test cases in whatever order. Then the report has
one record for each test case that it was told of, in the order of their first calls, and that record is what
the calls about the test case alone leave; if only one thread told of it, these are the calls of that thread. Of
what was told before the suite began nothing is left. The page has one block for each record, and at the end
of the suite the file holds that page.
-/
theorem report_keeps_cases_apart {ε : Type} {settings : Settings} {p : Platform} {kept : Place ε HtmlReport}
    (lawful : ∀ r e, kept.get (kept.set r e) = r) {earlier calls : List Told} {first : Told}
    (begins : first.call = .beginSuite) (going : ∀ m ∈ calls, m.call ≠ .beginSuite) {threads : Nat → List Told}
    (merged : Interleaves threads calls) {h : Host ε} (keeps : Keeps settings p kept (earlier ++ first :: calls) h) :
    let alone testId := after settings (calls.filter (Told.isAbout testId))
    ∃ records : ReportCases, kept.get h.outer = ⟨records, some first.now, some (fileAt settings first.now)⟩ ∧
      records.keys = testIds calls ∧ records.keys.Nodup ∧
      (∀ testId, testId ∈ records.keys ↔ ∃ m ∈ calls, m.call.testId? = some testId) ∧
      (∀ entry ∈ records, entry.2.testId = entry.1 ∧ (alone entry.1).cases = [entry]) ∧
      (∀ i testId, (∀ j, j ≠ i → ∀ m ∈ threads j, m.call.testId? ≠ some testId) →
        alone testId = after settings ((threads i).filter (Told.isAbout testId))) ∧
      (∀ category, HtmlPage.casesPart category records = HtmlPage.casesPart category [] ++
        (testIds calls).flatMap fun testId => (alone testId).cases.list.flatMap (HtmlPage.casePart category)) ∧
      ∀ file h', (receive settings p kept .endSuite).run h = (.ok (some file), h') →
        file = (fileAt settings first.now).text ∧ ∃ names files made, Files.locate files (fileAt settings first.now) = .ok names ∧
          h'.files = files.put names (.file (.text (Markup.render
            (HtmlPage.page (heading settings p (kept.get h.outer) h.localNow) records))) made) := by
  intro alone
  obtain ⟨records, whole, keys, filed, replayed⟩ := exists_records going settings begins earlier
  rw [← keeps.kept_eq lawful] at whole
  refine ⟨records, whole, keys, filed.distinct, fun testId => ?_, fun entry held => ⟨filed.own entry held, replayed entry held⟩,
    fun i testId only => ?_, fun category => ?_, fun file h' ends => ?_⟩
  · rw [keys]
    unfold testIds
    rw [List.mem_eraseDups, List.mem_filterMap]
  · have mine : calls.filter (Told.isAbout testId) = (threads i).filter (Told.isAbout testId) := by
      refine merged.filter_eq fun j other m held => ?_
      rw [Bool.eq_false_iff, ne_eq, Told.isAbout_iff]
      exact only j other m held
    exact congrArg (after settings) mine
  -- the records in order are the replayed ones in order, and so are their blocks
  · have whole : records = records.keys.flatMap fun testId => (alone testId).cases := Entries.eq_flatMap_of_single replayed
    have blocks := congrArg (fun records : ReportCases => records.list.flatMap (HtmlPage.casePart category)) whole
    rw [← keys]
    unfold HtmlPage.casesPart
    rw [blocks]
    unfold ReportCases.list
    rw [List.map_flatMap, List.flatMap_assoc]
    rfl
  · obtain ⟨path, names, files, made, place, named, located, written⟩ := endSuite_writes settings p ends
    have here : path = fileAt settings first.now := by
      rw [whole] at place
      exact (Option.some.inj place).symm
    have shown : pageOf settings p (kept.get h.outer) h.localNow =
        HtmlPage.page (heading settings p (kept.get h.outer) h.localNow) records := by
      rw [pageOf, whole]
    rw [here] at named located
    rw [shown] at written
    exact ⟨named, names, files, made, located, written⟩

/-! ## Two threads and a report -/

/-- A call that comes while the clock stands at its start. -/
def ReportCall.atStart (call : ReportCall) : Told := ⟨["work"], (Host.start default ["work"] ()).localNow, call⟩

/-- A report that is alone on its host takes calls as they come. -/
theorem HtmlReport.exists_keeps (settings : Settings) (calls : List ReportCall) (going : ∀ call ∈ calls, call ≠ .endSuite) :
    ∃ h, Keeps settings ⟨"", ""⟩ alone (calls.map ReportCall.atStart) h ∧ h.files.working = ["work"] ∧
      h.localNow = (Host.start default ["work"] ()).localNow := by
  induction calls using List.reverseRecOn with
  | nil => exact ⟨.start default ["work"] {}, .start rfl, rfl, rfl⟩
  | append_singleton calls call ih =>
    obtain ⟨h, keeps, working, now⟩ := ih fun other held => going other (List.mem_append_left _ held)
    have told := keeps.receive call
    rw [working, now] at told
    rw [List.map_append]
    have more := going call (List.mem_append_right _ List.mem_cons_self)
    refine ⟨_, told, ?_⟩
    cases call with
    | endSuite => exact absurd rfl more
    | beginSuite | beginCase | log | attach | finishCase => exact ⟨working, now⟩

namespace HtmlReport

/-- One thread tells of the first test case before and after it begins. -/
def firstThread : List ReportCall :=
  [.log .info "T1" "First" "early", .beginCase "T1" "First" "", .finishCase .passed "T1" "First" "fine"]

/-- Another tells of the second, which it never begins. -/
def secondThread : List ReportCall := [.log .warning "T2" "Second" "odd", .finishCase .failed "T2" "Second" "broken"]

def twoThreads : Nat → List Told
  | 0 => firstThread.map ReportCall.atStart
  | 1 => secondThread.map ReportCall.atStart
  | _ => []

def mergedCalls : List ReportCall :=
  [.log .warning "T2" "Second" "odd", .log .info "T1" "First" "early", .beginCase "T1" "First" "",
    .finishCase .failed "T2" "Second" "broken", .finishCase .passed "T1" "First" "fine"]

theorem interleaves_twoThreads : Interleaves twoThreads (mergedCalls.map ReportCall.atStart) := by
  refine .turn (i := 1) rfl (.turn (i := 0) rfl (.turn (i := 0) rfl (.turn (i := 1) rfl (.turn (i := 0) rfl (.done ?_)))))
  intro i
  rcases i with _ | _ | i <;> rfl

end HtmlReport

theorem report_keeps_two_threads_apart : ∃ (settings : Settings) (h : Host HtmlReport),
    Settings.read [] = .valid settings ∧
      Keeps settings ⟨"", ""⟩ alone ((.beginCase "T9" "Old" "" :: .beginSuite :: mergedCalls).map ReportCall.atStart) h ∧
      Interleaves twoThreads (mergedCalls.map ReportCall.atStart) ∧
      h.outer.cases.map (fun entry => (entry.1, entry.2.mark, entry.2.entries.map (·.level))) =
        [("T2", .failed, [.warning]), ("T1", .passed, [])] := by
  obtain ⟨settings, read, -⟩ := Settings.read_nothing
  obtain ⟨h, keeps, -⟩ := exists_keeps settings (.beginCase "T9" "Old" "" :: .beginSuite :: mergedCalls) (by decide)
  refine ⟨settings, h, read, keeps, interleaves_twoThreads, ?_⟩
  let earlier : List Told := [ReportCall.atStart (.beginCase "T9" "Old" "")]
  let calls : List Told := mergedCalls.map ReportCall.atStart
  have keeps : Keeps settings ⟨"", ""⟩ alone (earlier ++ ReportCall.atStart .beginSuite :: calls) h := keeps
  obtain ⟨records, whole, keys, -, -, replayed, -⟩ :=
    report_keeps_cases_apart (fun _ _ => rfl) rfl (by decide) interleaves_twoThreads keeps
  have cases : h.outer.cases = records := congrArg HtmlReport.cases whole
  have order : testIds calls = ["T2", "T1"] := by decide
  have blocks : records = records.keys.flatMap fun testId => (after settings (calls.filter (Told.isAbout testId))).cases :=
    Entries.eq_flatMap_of_single fun entry held => (replayed entry held).2
  rw [cases, blocks, keys, order]
  rfl

end KeywordSuite
