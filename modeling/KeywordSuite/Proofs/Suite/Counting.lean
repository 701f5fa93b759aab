import KeywordSuite.Proofs.Case.Discretion
import KeywordSuite.Proofs.CommandLine.Equipment
import KeywordSuite.Proofs.Report.Marks
import KeywordSuite.Proofs.Report.Masking
import KeywordSuite.Proofs.Suite.Crew
import KeywordSuite.Proofs.Suite.Isolation
import KeywordSuite.Proofs.Suite.Outcome
import KeywordSuite.Proofs.Suite.Reporting

/-!
# The report and the summary of a suite agree

While discreet keywords run, a report has records of test cases of the suite only, each test case that has ended
has the mark of its result, and no other touches it. So where no two test cases share a test id, the report that is
written in the end has one record for each result, and shows the numbers of the summary.
-/

namespace KeywordSuite

open HtmlReport

variable {ε : Type}

/-- Any fault, while the report that is kept is left as it is. -/
def Course.keeping (kept : Place ε HtmlReport) : Course (Host ε) where
  ends _ := True
  leads h h' := kept.get h'.outer = kept.get h.outer
  ordinary _ := trivial
  refl _ := rfl
  trans before after := after.trans before

/-- Surroundings that tell one report, which nothing else touches. -/
structure Surroundings.ReportsTo (s : Surroundings (Host ε)) (settings : Settings) (p : Platform)
    (kept : Place ε HtmlReport) : Prop where
  lawful : ∀ r e, kept.get (kept.set r e) = r
  told : s.report = some (receive settings p kept)
  apart : s.OnCourse (.keeping kept)
  lists : s.source.listActive.KeepsTo (.keeping kept) id

/-- The report that is kept in a world. -/
def Place.reportIn (kept : Place ε HtmlReport) (w : World (Host ε)) : HtmlReport := kept.get w.outer.outer

variable {s : Surroundings (Host ε)} {settings : Settings} {p : Platform} {kept : Place ε HtmlReport} {plan : SuitePlan}
  {w : World (Host ε)}

namespace Surroundings.ReportsTo

variable (hs : s.ReportsTo settings p kept)
include hs

theorem tellReport_updates (call : ReportCall) (w : World (Host ε)) :
    kept.reportIn ((s.tellReport call).run w).2 =
      update settings w.outer.files.working w.outer.localNow (kept.reportIn w) call := by
  have receives : s.tellReport call = World.zoom (receive settings p kept call) := by
    unfold Surroundings.tellReport
    rw [hs.told]
  rw [receives]
  exact receive_updates settings p hs.lawful call w.outer

theorem reportIn_logged (level : LogLevel) (message : String) (w : World (Host ε)) :
    kept.reportIn (s.logged level message w) = kept.reportIn w := hs.apart.log level message w.outer

/-- What a test case does takes a report further by what is told of that one. -/
theorem next_handle {testId : String} {op : SharedOp} (about : op.About testId) (w : World (Host ε)) :
    Next testId (op.leaves ·) (kept.reportIn w) (kept.reportIn ((s.handle op).run w).2) := by
  by_cases told : ∃ call, op = .report call
  · obtain ⟨call, rfl⟩ := told
    have updated : kept.reportIn ((s.handle (.report call)).run w).2 = _ := hs.tellReport_updates call w
    rw [updated]
    exact next_update settings _ _ _ (about call rfl)
  · have untold : ∀ call, op ≠ .report call := fun call same => told ⟨call, same⟩
    have still : kept.reportIn ((s.handle op).run w).2 = kept.reportIn w :=
      (hs.apart.handle (fun call same => absurd same (untold call)) w).2
    rw [still]
    exact .same _ (SharedOp.leaves_of_untold untold _)

theorem ordinarily : ∀ tell, s.report = some tell → ∀ call, (tell call).Ordinarily := by
  intro tell found call
  obtain rfl := Option.some.inj (hs.told.symm.trans found)
  exact Act.keepsTo_calm.1 (keepsTo_receive (fun _ _ _ => trivial) settings p kept call)

/-- When the first test case begins, the report has no record, and it is known where it will be written. -/
theorem exists_starting (cases : List CaseDescriptor) (w : World (Host ε)) : ∃ startedAt path,
    kept.reportIn (s.startingWorld cases w) = ⟨[], startedAt, some path⟩ := by
  obtain ⟨answer, begun, tells⟩ : ∃ answer begun, (s.tellReport .beginSuite).run
      (s.logged .info "========== Starting Test Execution ==========" w) = (.ok answer, begun) := by
    unfold Surroundings.tellReport
    rw [hs.told]
    exact ⟨none, _, rfl⟩
  have updated := hs.tellReport_updates .beginSuite (s.logged .info "========== Starting Test Execution ==========" w)
  have listing : s.listingWorld w = begun := congrArg Prod.snd (Surroundings.run_tellReport tells)
  have listed : kept.reportIn ((World.zoom s.source.listActive).run begun).2 = kept.reportIn begun :=
    (hs.lists begun.outer).2
  rw [tells] at updated
  unfold Surroundings.startingWorld
  rw [hs.reportIn_logged, listing, listed, updated]
  exact ⟨_, _, rfl⟩

theorem tellReport_of_receives {call : ReportCall} {answer : Option String} {h' : Host ε}
    (receives : (receive settings p kept call).run w.outer = (.ok answer, h')) :
    (s.tellReport call).run w = (.ok answer, { w with outer := h' }) := by
  have zoomed : ∀ act : Act (Host ε) (Option String),
      (World.zoom act).run w = ((act.run w.outer).1, { w with outer := (act.run w.outer).2 }) := fun _ => rfl
  unfold Surroundings.tellReport
  rw [hs.told]
  exact (zoomed _).trans (by rw [receives])

end Surroundings.ReportsTo

/-! ## While test cases run -/

/-- A report while test cases run: it has records of them only, and those that have ended have their marks. -/
structure Reported (kept : Place ε HtmlReport) (path : FilePath) (cases : List CaseDescriptor) (ended : Outcomes)
    (crew : Crew) (w : World (Host ε)) : Prop where
  path : (kept.reportIn w).path = some path
  filed : (kept.reportIn w).cases.Filed
  known : ∀ key ∈ (kept.reportIn w).cases.keys, key ∈ cases.map CaseDescriptor.testId
  busy : ∀ u x, crew u = some x → ∃ d, cases[x.place]? = some d ∧
    x.rest.Keeps (marking d.testId) ((kept.reportIn w).cases.mark? d.testId) fun r mark => d.Marked r mark
  marked : ∀ q ∈ ended, ∃ d, cases[q.1]? = some d ∧ d.Marked q.2 ((kept.reportIn w).cases.mark? d.testId)
  /-- No test case is under way twice, or after it has ended. -/
  apart : ∀ u u' x x', crew u = some x → crew u' = some x' → x.place = x'.place → u = u'
  spent : ∀ q ∈ ended, ∀ u x, crew u = some x → x.place ≠ q.1

variable {cases : List CaseDescriptor} {path : FilePath} {ended : Outcomes} {crew : Crew}

theorem place_of_testId (distinct : (cases.map CaseDescriptor.testId).Nodup) {i j : Nat} {d d' : CaseDescriptor}
    (here : cases[i]? = some d) (there : cases[j]? = some d') (same : d.testId = d'.testId) : i = j := by
  have inside : i < (cases.map CaseDescriptor.testId).length := by
    rw [List.length_map]
    exact (List.getElem?_eq_some_iff.1 here).1
  refine (List.getElem?_inj inside distinct).1 ?_
  rw [List.getElem?_map, List.getElem?_map, here, there]
  exact congrArg some same

/-- One unit changes what it does, and the report goes on by what is told of its test case. -/
theorem Reported.turn (h : Reported kept path cases ended crew w) (distinct : (cases.map CaseDescriptor.testId).Nodup)
    {u : UnitId} {place : Nat} {d : CaseDescriptor} (listed : cases[place]? = some d) {w' : World (Host ε)}
    {change : Option CaseMark → Option CaseMark} (next : Next d.testId change (kept.reportIn w) (kept.reportIn w'))
    {rest : Program SharedOp.Reply (Except Fault CaseResult)}
    (keeps : rest.Keeps (marking d.testId) (change ((kept.reportIn w).cases.mark? d.testId)) fun r mark => d.Marked r mark)
    (spares : Crew.Spares (Function.update crew u none) ended place) :
    Reported kept path cases ended (Function.update crew u (some ⟨place, rest⟩)) w' where
  path := next.path.trans h.path
  filed := next.filed h.filed
  known key held := by
    rcases next.known key held with rfl | old
    · exact List.mem_map.2 ⟨d, List.mem_of_getElem? listed, rfl⟩
    · exact h.known key old
  busy u' x busy := by
    -- ids are distinct, so the mark that changes belongs to this test case alone
    by_cases here : u' = u
    · subst here
      rw [Function.update_self] at busy
      cases busy
      refine ⟨d, listed, ?_⟩
      rwa [next.mark, if_pos rfl]
    · rw [Function.update_of_ne here] at busy
      obtain ⟨d', there, keeps'⟩ := h.busy u' x busy
      have other : d'.testId ≠ d.testId := fun same =>
        spares.busy u' x (by rwa [Function.update_of_ne here]) (place_of_testId distinct there listed same)
      refine ⟨d', there, ?_⟩
      rwa [next.mark, if_neg other]
  marked q done := by
    obtain ⟨d', there, marked⟩ := h.marked q done
    have other : d'.testId ≠ d.testId := fun same => spares.ended q done (place_of_testId distinct there listed same)
    refine ⟨d', there, ?_⟩
    rwa [next.mark, if_neg other]
  apart := (Crew.Distinct.turn ⟨h.apart, h.spent⟩ spares rest).apart
  spent := (Crew.Distinct.turn ⟨h.apart, h.spent⟩ spares rest).spent

/-- Whatever leaves the report as it is keeps this. -/
theorem Reported.frame (h : Reported kept path cases ended crew w) {w' : World (Host ε)}
    (same : kept.reportIn w' = kept.reportIn w) : Reported kept path cases ended crew w' where
  path := by rw [same]; exact h.path
  filed := by rw [same]; exact h.filed
  known := by rw [same]; exact h.known
  busy := by rw [same]; exact h.busy
  marked := by rw [same]; exact h.marked
  apart := h.apart
  spent := h.spent

theorem Surroundings.ReportsTo.exists_reported (hs : s.ReportsTo settings p kept) (cases : List CaseDescriptor)
    (w : World (Host ε)) : ∃ path, Reported kept path cases [] .idle (s.startingWorld cases w) := by
  obtain ⟨startedAt, path, starts⟩ := hs.exists_starting cases w
  refine ⟨path, ?_, ?_, ?_, fun _ _ busy => (by cases busy), fun _ done => (by cases done),
    fun _ _ _ _ busy => (by cases busy), fun _ done => by cases done⟩ <;> rw [starts]
  · exact ReportCases.filed_nil
  · exact fun key held => by cases held

theorem Surroundings.ReportsTo.attends (hs : s.ReportsTo settings p kept) (hk : plan.registry.Discreet)
    (distinct : (cases.map CaseDescriptor.testId).Nodup) :
    Crew.Attends s plan cases (Reported kept path cases) where
  begin := by
    intro ended crew w place d u h listed free spares
    have stays : Next d.testId id (kept.reportIn w) (kept.reportIn w) := .same _ rfl
    exact h.turn distinct listed stays (CaseDescriptor.keeps_run_marking hk u)
      ⟨fun u' x busy => spares.busy u' x (Crew.Distinct.busy_but busy).2, spares.ended⟩
  act := by
    intro ended crew w u place op resume h here
    obtain ⟨d, listed, _, ⟨about, rfl⟩, keeps⟩ := h.busy u _ here
    exact h.turn distinct listed (hs.next_handle about w) (keeps _ trivial)
      (Crew.Distinct.alone ⟨h.apart, h.spent⟩ here)
  finish := by
    intro ended crew w u place r h here
    obtain ⟨d, listed, marked⟩ := h.busy u _ here
    have left := Crew.Distinct.finish ⟨h.apart, h.spent⟩ here r
    refine { h with busy := ?_, marked := ?_, apart := left.apart, spent := left.spent }
    · exact fun u' x busy => h.busy u' x (Crew.Distinct.busy_but busy).2
    · exact List.forall_mem_append.2 ⟨h.marked, List.forall_mem_singleton.2 ⟨d, listed, marked⟩⟩
  note h := h.frame (hs.reportIn_logged _ _ _)

/-- Test cases that have ended have one record each, with the marks of their results. -/
theorem Reported.perm (h : Reported kept path cases ended crew w) (distinct : (cases.map CaseDescriptor.testId).Nodup)
    {results : List CaseResult} (gathers : Gathers ended (List.range cases.length) (.ok results)) :
    ((kept.reportIn w).cases.list.map fun c => (c.testId, c.mark)).Perm (results.map CaseResult.reported) := by
  have own : List.Forall₂ (fun (r : CaseResult) (d : CaseDescriptor) =>
      (kept.reportIn w).cases.mark? r.testId = some (.ofStatus r.status) ∧ r.testId = d.testId) results cases := by
    refine (List.Forall₂.imp (fun d r came => ?_) gathers.forall₂).flip
    obtain ⟨place, listed, done⟩ := came
    obtain ⟨_, same, marked⟩ := h.marked _ done
    cases listed.symm.trans same
    obtain ⟨testId, mark⟩ := marked r rfl
    exact ⟨testId ▸ mark, testId⟩
  obtain ⟨marked, owns⟩ := (List.forall₂_and_left results cases).1 own
  have names : (results.map CaseResult.reported).map Prod.fst = cases.map CaseDescriptor.testId := by
    rw [List.map_map]
    exact List.forall₂_eq_eq_eq ▸ List.forall₂_map_left_iff.2 (List.forall₂_map_right_iff.2 owns)
  refine h.filed.perm (names ▸ distinct) (names ▸ h.known) fun x told => ?_
  obtain ⟨r, came, rfl⟩ := List.mem_map.1 told
  exact marked r came

/-- The world in which all test cases of a suite have ended. -/
def Surroundings.endingWorld (s : Surroundings (Host ε)) (plan : SuitePlan) (cases : List CaseDescriptor)
    (schedule : List Nat) (w : World (Host ε)) : World (Host ε) :=
  ((s.runAll plan cases schedule).run (s.startingWorld cases w)).2

/-! ## A report on a desk -/

/-- A host that keeps a report, and begins in a directory of its own. -/
def Host.desk : Host HtmlReport := .start default ["work"] {}

/-- The report is kept, and nothing else can be done. -/
def Surroundings.desk (cases : List CaseDescriptor) (keywords : List (String × Value)) :
    Surroundings (Host HtmlReport) where
  log _ _ h := h
  create _ _ := throw (.plain .runtime "no browser")
  browse _ _ := throw (.plain .runtime "no browser")
  defaultConfig := {}
  now := Host.now
  localNow := Host.localNow
  stopwatch _ := 0.0
  sleep _ := return
  source := ⟨return cases, fun _ => return [], fun testId =>
    return keywords.filterMap fun (own, keyword) => if own = testId then some keyword else none⟩
  report := some (receive default ⟨"", ""⟩ alone)
  capture := .absent
  listeners := []
  outside _ _ := throw (.plain .runtime "nothing outside")

namespace Surroundings

variable (cases : List CaseDescriptor) (keywords : List (String × Value)) (plan : SuitePlan) (schedule : List Nat)

theorem reportsTo_desk : (desk cases keywords).ReportsTo default ⟨"", ""⟩ alone where
  lawful _ _ := rfl
  told := rfl
  apart := {
    log := fun _ _ _ => rfl
    create := fun _ _ => Act.keepsTo_throw rfl
    browse := fun _ _ => Act.keepsTo_throw rfl
    sleep := fun _ => Act.keepsTo_pure _
    loadInput := fun _ => Act.keepsTo_pure _
    loadKeywords := fun _ => Act.keepsTo_pure _
    capture := fun _ _ other => by cases other
    listeners := fun _ member => by cases member
    outside := fun _ _ => Act.keepsTo_throw rfl
    closes := fun _ never => by cases never }
  lists := Act.keepsTo_pure _

theorem listed_desk (h : Host HtmlReport) : ((desk cases keywords).source.listActive.run h).1 = .ok cases := rfl

/-- What a suite leaves at the desk: its results and its records, where the report goes, and the files. -/
structure DeskLeft where
  results : Option (List (String × CaseMark))
  records : List (String × CaseMark)
  path : Option FilePath
  working : List String
  nodes : List (List String × Bool)
  deriving DecidableEq

def deskLeft : DeskLeft :=
  let s := desk cases keywords
  let left := (s.runAll plan cases schedule).run (s.startingWorld cases ⟨.empty, .desk⟩)
  ⟨left.1.toOption.map (·.map CaseResult.reported), (alone.reportIn left.2).cases.list.map fun c => (c.testId, c.mark),
    (alone.reportIn left.2).path, left.2.outer.files.working,
    left.2.outer.files.nodes.map fun node => (node.1, node.2.isDirectory)⟩

/-- Where test cases at the desk come to results, the suite comes to a summary, and its report can be ended. -/
theorem desk_ends (results records : List (String × CaseMark))
    (left : deskLeft cases keywords plan schedule =
      ⟨some results, records, some ⟨"", ["TestReport_01130_000000.html"]⟩, ["work"], [(["work"], true)]⟩) :
    ∃ summary answer h', ((desk cases keywords).runSuite plan schedule ⟨.empty, .desk⟩).1.summary = .ok summary ∧
      (receive default ⟨"", ""⟩ alone .endSuite).run
        ((desk cases keywords).endingWorld plan cases schedule ⟨.empty, .desk⟩).outer = (.ok answer, h') ∧
      summary.results.map CaseResult.reported = results ∧
      (alone.reportIn ((desk cases keywords).endingWorld plan cases schedule ⟨.empty, .desk⟩)).cases.list.map
        (fun c => (c.testId, c.mark)) = records := by
  have hs := reportsTo_desk cases keywords
  unfold endingWorld
  dsimp only [deskLeft] at left
  rcases ran : ((desk cases keywords).runAll plan cases schedule).run
    ((desk cases keywords).startingWorld cases ⟨.empty, .desk⟩) with ⟨came, w₁⟩
  rw [ran] at left
  simp only [DeskLeft.mk.injEq] at left
  obtain ⟨came_eq, records_eq, place, working, nodes⟩ := left
  cases came with
  | error fault => cases came_eq
  | ok list =>
  obtain ⟨completedAt, path, w₂, ends⟩ := run_finishSuite plan hs.ordinarily (fun _ member => by cases member) list
    ((desk cases keywords).now Host.desk) w₁
  have suite := runSuite_of_results hs.ordinarily rfl ran ends
  -- The files are told by their names and kinds only: when the directory was made is left open.
  obtain ⟨made, files⟩ : ∃ made, w₁.outer.files = ⟨["work"], [(["work"], .directory made)]⟩ := by
    generalize w₁.outer.files = files at working nodes
    obtain ⟨_, nodes'⟩ := files
    obtain rfl := working
    obtain ⟨node, rest, rfl, first, none⟩ := List.map_eq_cons_iff.1 nodes
    obtain ⟨names, content⟩ := node
    obtain rfl := List.map_eq_nil_iff.1 none
    cases content with
    | directory made =>
      cases first
      exact ⟨made, rfl⟩
    | file => cases first
  have there : w₁.outer.files.find ⟨"", []⟩ = .ok (.directory made) := by
    unfold Files.find
    rw [files, Files.locate_eq (by decide) (by decide)]
    rfl
  have takes : w₁.outer.files.Takes ⟨"", ["TestReport_01130_000000.html"]⟩ := by
    refine ⟨["work", "TestReport_01130_000000.html"], ?_, fun other => ?_⟩
    · rw [files, Files.locate_eq (by decide) (by decide)]
      rfl
    · rw [files]
      exact fun never => by cases never
  obtain ⟨h', finishes⟩ := exists_endSuite default ⟨"", ""⟩ alone place there takes
  exact ⟨.ofResults list _ completedAt, _, h', congrArg (fun run => run.1.summary) suite, finishes, Option.some.inj came_eq, records_eq⟩

end Surroundings

/-- Keywords that drive the browser tell the report of their own test case. -/
theorem KeywordRegistry.discreet_browsing : browsing.Discreet := by
  intro name e found id
  exact BrowserKeyword.tellsOf_of_isBuiltIn (isBuiltIn_browsing found) id

namespace Surroundings

def twoCases : List CaseDescriptor := [{ testId := "TC1", testName := "First" }, { testId := "TC2", testName := "Second" }]

/-- The first closes a browser that was never opened, the second has no keywords. -/
def twoKeywords : List (String × Value) := [("TC1", .text "close_browser")]

def pairPlan : SuitePlan := ⟨.browsing, [], [], 2⟩

def pairTurns : List Nat := (List.replicate 20 [0, 1]).flatten

theorem deskLeft_two : deskLeft twoCases twoKeywords pairPlan pairTurns =
    ⟨some [("TC1", .passed), ("TC2", .failed)], [("TC1", .passed), ("TC2", .failed)],
      some ⟨"", ["TestReport_01130_000000.html"]⟩, ["work"], [(["work"], true)]⟩ := by decide +kernel

/-- Two test cases under one test id. -/
def twinCases : List CaseDescriptor := [{ testId := "TC1", testName := "First" }, { testId := "TC1", testName := "Second" }]

theorem deskLeft_twins : deskLeft twinCases twoKeywords pairPlan pairTurns =
    ⟨some [("TC1", .passed), ("TC1", .passed)], [("TC1", .passed)], some ⟨"", ["TestReport_01130_000000.html"]⟩,
      ["work"], [(["work"], true)]⟩ := by decide +kernel

/-- A keyword that tells the report of a test case which is not in the suite. -/
def tellingPlan : SuitePlan := ⟨⟨[("TELL", ⟨"TELL", fun _ => do
    let _ ← KeywordProcedure.shared (.report (.log .info "TC9" "Other" "told"))
    return .bool true, true, "", "Telling"⟩)]⟩, [], [], 1⟩

theorem deskLeft_telling : deskLeft twoCases [("TC1", .text "tell")] tellingPlan [] =
    ⟨some [("TC1", .passed), ("TC2", .failed)], [("TC1", .passed), ("TC9", .running), ("TC2", .failed)],
      some ⟨"", ["TestReport_01130_000000.html"]⟩, ["work"], [(["work"], true)]⟩ := by decide +kernel

end Surroundings

/-! ## The report that is written -/

/-- A report shows a summary: its numbers, and one record for each result. -/
structure SuiteSummary.ShownBy (summary : SuiteSummary) (records : ReportCases) : Prop where
  numbers : HtmlPage.metricsPart records =
    HtmlPage.figures summary.total summary.passed summary.failed records.successPercent
  results : (records.list.map fun c => (c.testId, c.mark)).Perm (summary.results.map CaseResult.reported)

/--
Where no two of its test cases share a test id, and no keyword tells the report of another test case than its
own, a suite that comes to a summary, and whose report can be ended, writes it to one file. The report shows the
numbers of the summary, and has one record for each result, with its test id and its status.
-/
theorem report_shows_summary (hs : s.ReportsTo settings p kept) (plan : SuitePlan) (hk : plan.registry.Discreet)
    (schedule : List Nat) (w : World (Host ε)) {cases : List CaseDescriptor}
    (listed : (s.source.listActive.run (s.listingWorld w).outer).1 = .ok cases)
    (distinct : (cases.map CaseDescriptor.testId).Nodup) {summary : SuiteSummary}
    (returned : (s.runSuite plan schedule w).1.summary = .ok summary) {answer : Option String} {h' : Host ε}
    (ends : (receive settings p kept .endSuite).run (s.endingWorld plan cases schedule w).outer = (.ok answer, h')) :
    let ending := s.endingWorld plan cases schedule w
    let report := kept.reportIn ending
    ∃ path names files made, answer = some path.text ∧ (s.runSuite plan schedule w).1.reportPath = some path.text ∧
      Files.locate files path = .ok names ∧
      h'.files = files.put names (.file (.text (text settings p report ending.outer.localNow)) made) ∧
      summary.ShownBy report.cases := by
  obtain ⟨path, idle⟩ := hs.exists_reported cases w
  obtain ⟨ended, left, gathers⟩ := (hs.attends hk distinct).runAll idle schedule
  unfold Surroundings.endingWorld at ends ⊢
  rcases ran : (s.runAll plan cases schedule).run (s.startingWorld cases w) with ⟨fault | results, w₁⟩ <;>
    rw [ran] at left gathers ends
  · rw [Surroundings.runSuite_of_stopped hs.ordinarily listed ran] at returned
    cases returned
  · obtain ⟨outcome, w₂, concludes, told, sums⟩ :=
      Surroundings.run_finishSuite_of_told plan results (s.now w.outer) (hs.tellReport_of_receives ends)
    have suite := Surroundings.runSuite_of_ended hs.ordinarily listed ran concludes
    rw [suite] at returned ⊢
    obtain ⟨completedAt, rfl⟩ := sums summary returned
    have finishes := finish_of_endSuite settings p ends
    obtain rfl := finish_answers settings p left.path finishes
    obtain ⟨_, names, files, made, place, _, located, written⟩ := finish_writes settings p finishes
    cases left.path.symm.trans place
    have same := left.perm distinct gathers
    exact ⟨path, names, files, made, rfl, told, located, written, HtmlPage.metricsPart_of_perm same _ _, same⟩

open Surroundings

theorem report_shows_two_results : ∃ summary answer h',
    ((desk twoCases twoKeywords).runSuite pairPlan pairTurns ⟨.empty, .desk⟩).1.summary = .ok summary ∧
    (receive default ⟨"", ""⟩ alone .endSuite).run
      ((desk twoCases twoKeywords).endingWorld pairPlan twoCases pairTurns ⟨.empty, .desk⟩).outer = (.ok answer, h') ∧
    summary.results.map CaseResult.reported = [("TC1", .passed), ("TC2", .failed)] ∧
    (∃ path : FilePath, answer = some path.text) ∧
    summary.ShownBy (alone.reportIn ((desk twoCases twoKeywords).endingWorld pairPlan twoCases pairTurns ⟨.empty, .desk⟩)).cases := by
  obtain ⟨summary, answer, h', returned, ends, results, -⟩ := desk_ends twoCases _ pairPlan pairTurns _ _ deskLeft_two
  have discreet : pairPlan.registry.Discreet := KeywordRegistry.discreet_browsing
  obtain ⟨path, _, _, _, written, -, -, -, shown⟩ := report_shows_summary (reportsTo_desk twoCases twoKeywords) pairPlan
    discreet pairTurns ⟨.empty, .desk⟩ (listed_desk twoCases _ _) (by decide) returned ends
  exact ⟨summary, answer, h', returned, ends, results, ⟨path, written⟩, shown⟩

theorem SuiteSummary.not_shownBy {summary : SuiteSummary} {cases : ReportCases} {results records : List (String × CaseMark)}
    (came : summary.results.map CaseResult.reported = results)
    (kept : (cases.list.map fun c => (c.testId, c.mark)) = records) (other : records.length ≠ results.length) :
    ¬ summary.ShownBy cases := by
  intro shown
  refine other ?_
  rw [← came, ← kept]
  exact shown.results.length_eq

/-- Of test cases that share a test id only one has a record, and a keyword that tells of another one adds one. -/
theorem report_misses_results :
    (¬ ∀ (s : Surroundings (Host HtmlReport)) (plan : SuitePlan) (schedule : List Nat) (w : World (Host HtmlReport))
      (cases : List CaseDescriptor) (summary : SuiteSummary) (answer : Option String) (h' : Host HtmlReport),
      s.ReportsTo default ⟨"", ""⟩ alone → plan.registry.Discreet →
      (s.source.listActive.run (s.listingWorld w).outer).1 = .ok cases →
      (s.runSuite plan schedule w).1.summary = .ok summary →
      (receive default ⟨"", ""⟩ alone .endSuite).run (s.endingWorld plan cases schedule w).outer = (.ok answer, h') →
      summary.ShownBy (alone.reportIn (s.endingWorld plan cases schedule w)).cases) ∧
    ¬ ∀ (s : Surroundings (Host HtmlReport)) (plan : SuitePlan) (schedule : List Nat) (w : World (Host HtmlReport))
      (cases : List CaseDescriptor) (summary : SuiteSummary) (answer : Option String) (h' : Host HtmlReport),
      s.ReportsTo default ⟨"", ""⟩ alone → (cases.map CaseDescriptor.testId).Nodup →
      (s.source.listActive.run (s.listingWorld w).outer).1 = .ok cases →
      (s.runSuite plan schedule w).1.summary = .ok summary →
      (receive default ⟨"", ""⟩ alone .endSuite).run (s.endingWorld plan cases schedule w).outer = (.ok answer, h') →
      summary.ShownBy (alone.reportIn (s.endingWorld plan cases schedule w)).cases := by
  constructor
  · intro claim
    obtain ⟨summary, answer, h', returned, ends, came, kept⟩ := desk_ends twinCases _ pairPlan pairTurns _ _ deskLeft_twins
    have discreet : pairPlan.registry.Discreet := KeywordRegistry.discreet_browsing
    exact SuiteSummary.not_shownBy came kept (by decide) (claim (desk twinCases twoKeywords) pairPlan pairTurns
      ⟨.empty, .desk⟩ twinCases summary answer h' (reportsTo_desk _ _) discreet (listed_desk _ _ _) returned ends)
  · intro claim
    obtain ⟨summary, answer, h', returned, ends, came, kept⟩ := desk_ends twoCases _ tellingPlan [] _ _ deskLeft_telling
    exact SuiteSummary.not_shownBy came kept (by decide) (claim (desk twoCases [("TC1", .text "tell")]) tellingPlan []
      ⟨.empty, .desk⟩ twoCases summary answer h' (reportsTo_desk _ _) (by decide) (listed_desk _ _ _) returned ends)

end KeywordSuite
