import KeywordSuite.Proofs.Entries
import KeywordSuite.Proofs.Keyword.Discretion
import KeywordSuite.Report.Html

/-!
# The marks in a report

What a report is told about one test case sets the mark in the record of that one and leaves all other records.
A report has one record for each test case it was told of, filed under its own id; if each test case of a list
has its mark there, and no other was told of, its records are those of the list, and so is what it counts.
-/

namespace KeywordSuite

namespace ReportCases

variable {cases : ReportCases} {testId : String}

def mark? (cases : ReportCases) (testId : String) : Option CaseMark := (cases.get? testId).map ReportCase.mark

/-- Each record is the only one under its own test id. -/
structure Filed (cases : ReportCases) : Prop where
  distinct : cases.keys.Nodup
  own : ∀ entry ∈ cases, entry.2.testId = entry.1

theorem filed_nil : Filed [] := ⟨.nil, fun _ never => by cases never⟩

theorem Filed.set (h : cases.Filed) {c : ReportCase} (own : c.testId = testId) : Filed (Entries.set cases testId c) where
  distinct := Entries.nodup_keys_set h.distinct testId c
  own entry held := by
    rcases Entries.mem_set held with old | rfl
    · exact h.own entry old
    · exact own

theorem mark?_set (other : String) (c : ReportCase) :
    mark? (Entries.set cases testId c) other = if other = testId then some c.mark else cases.mark? other := by
  unfold mark?
  rw [Entries.get?_set]
  split <;> rfl

/-! ## The record that a call is about -/

theorem mark_record (cases : ReportCases) (testId testName : String) :
    (record cases testId testName).mark = (cases.mark? testId).getD .running := by
  unfold record mark?
  cases cases.get? testId <;> rfl

theorem Filed.testId_record (h : cases.Filed) (testId testName : String) :
    (record cases testId testName).testId = testId := by
  unfold record
  cases found : cases.get? testId with
  | none => rfl
  | some c => exact h.own _ (Entries.mem_of_get? found)

end ReportCases

namespace HtmlReport

variable {testId : String}

/-- How a report goes on that is told about one test case: the records of all others stay. -/
structure Next (testId : String) (change : Option CaseMark → Option CaseMark) (r r' : HtmlReport) : Prop where
  path : r'.path = r.path
  mark : ∀ other, r'.cases.mark? other = if other = testId then change (r.cases.mark? testId) else r.cases.mark? other
  filed : r.cases.Filed → r'.cases.Filed
  known : ∀ key ∈ r'.cases.keys, key = testId ∨ key ∈ r.cases.keys

theorem Next.same {change : Option CaseMark → Option CaseMark} (r : HtmlReport)
    (same : change (r.cases.mark? testId) = r.cases.mark? testId) : Next testId change r r where
  path := rfl
  mark other := by
    split
    · rename_i here
      rw [here, same]
    · rfl
  filed := id
  known _ := .inr

theorem next_set {change : Option CaseMark → Option CaseMark} (r : HtmlReport) {c : ReportCase}
    (mark : some c.mark = change (r.cases.mark? testId)) (own : r.cases.Filed → c.testId = testId) :
    Next testId change r { r with cases := r.cases.set testId c } where
  path := rfl
  mark other := by rw [← mark, ReportCases.mark?_set]
  filed filed := filed.set (own filed)
  known _ held := Entries.mem_keys_set held

/-- A call about a test case replaces the record of that one. -/
theorem next_update (settings : Settings) (working : List String) (now : Timestamp) (r : HtmlReport) {call : ReportCall}
    (about : call.testId? = some testId) : Next testId (call.leaves ·) r (update settings working now r call) := by
  cases call with
  | beginSuite | endSuite => cases about
  | beginCase testId testName description =>
    cases about
    exact next_set r rfl fun _ => rfl
  | log level testId testName message =>
    cases about
    exact next_set r (congrArg some (ReportCases.mark_record ..)) fun filed => filed.testId_record ..
  | attach testId testName path caption =>
    cases about
    exact next_set r (congrArg some (ReportCases.mark_record ..)) fun filed => filed.testId_record ..
  | finishCase status testId testName details =>
    cases about
    exact next_set r rfl fun filed => filed.testId_record ..

end HtmlReport

/-! ## The records of a list of test cases -/

namespace ReportCases

variable {cases : ReportCases} {list : List (String × CaseMark)}

theorem Filed.perm (h : cases.Filed) (apart : (list.map Prod.fst).Nodup)
    (known : ∀ key ∈ cases.keys, key ∈ list.map Prod.fst) (marked : ∀ x ∈ list, cases.mark? x.1 = some x.2) :
    (cases.list.map fun c => (c.testId, c.mark)).Perm list := by
  have own : cases.list.map (fun c => (c.testId, c.mark)) = cases.map fun entry => (entry.1, entry.2.mark) := by
    unfold ReportCases.list
    rw [List.map_map]
    exact List.map_congr_left fun entry held => Prod.ext (h.own entry held) rfl
  rw [own]
  exact Entries.perm_of_get? h.distinct apart known marked

theorem count_of_perm (same : (cases.list.map fun c => (c.testId, c.mark)).Perm list) (mark : CaseMark) :
    cases.count mark = list.countP fun x => x.2 == mark := by
  rw [← same.countP_eq, List.countP_map]
  rfl

theorem length_of_perm (same : (cases.list.map fun c => (c.testId, c.mark)).Perm list) :
    cases.length = list.length := by
  rw [← same.length_eq, List.length_map, ReportCases.list, List.length_map]

end ReportCases

/-- What a report says of a result: its test id, and the mark of its status. -/
def CaseResult.reported (r : CaseResult) : String × CaseMark := (r.testId, .ofStatus r.status)

/-- The numbers on a page, with the share of passed test cases in percent. -/
def HtmlPage.figures (total passed failed percent : Int) : Page :=
  [.markup "
        <div class=\"summary\">
"]
  ++ metric "metric-value" (toString total) "" "Test Cases"
  ++ metric "metric-value passed" (toString passed) "" "Passed"
  ++ metric "metric-value failed" (toString failed) "" "Failed"
  ++ metric "metric-value" (toString percent) "%" "Success Rate"
  ++ [.markup "        </div>
"]

/-- Records that are those of some results count what a summary of these results does. -/
theorem HtmlPage.metricsPart_of_perm {cases : ReportCases} {results : List CaseResult}
    (same : (cases.list.map fun c => (c.testId, c.mark)).Perm (results.map CaseResult.reported))
    (startedAt completedAt : Timestamp) :
    let summary := SuiteSummary.ofResults results startedAt completedAt
    metricsPart cases = figures summary.total summary.passed summary.failed cases.successPercent := by
  intro summary
  have counts : ∀ status, cases.count (.ofStatus status) = results.countP fun r => r.status == status := by
    intro status
    rw [ReportCases.count_of_perm same, List.countP_map]
    refine List.countP_congr fun r _ => ?_
    cases status <;> cases h : r.status <;> simp [CaseResult.reported, CaseMark.ofStatus, h]
  have total : (cases.length : Int) = summary.total := by
    rw [ReportCases.length_of_perm same, List.length_map]
    rfl
  have passed : (cases.count .passed : Int) = summary.passed := congrArg Nat.cast (counts .passed)
  have failed : (cases.count .failed : Int) = summary.failed := by
    have others : results.countP (fun r => r.status == .failed) = results.countP fun r => ¬ r.passed = true := by
      refine List.countP_congr fun r _ => ?_
      cases h : r.status <;> simp [CaseResult.passed, h]
    have failed : cases.count .failed = results.countP fun r => ¬ r.passed = true := (counts .failed).trans others
    have parts := List.length_eq_countP_add_countP CaseResult.passed (l := results)
    rw [← failed] at parts
    show (cases.count .failed : Int) = (results.length : Int) - results.countP CaseResult.passed
    omega
  unfold metricsPart figures
  rw [← total, ← passed, ← failed]
  rfl

end KeywordSuite
