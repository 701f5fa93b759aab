import KeywordSuite.Proofs.Host.Way
import KeywordSuite.Proofs.Report.Apart
import KeywordSuite.Proofs.Report.Screenshots

/-!
# Links of a report

A report links each artifact by the way from its own directory. The record of a test case holds one link for each
artifact attached since it was started, in order, and seen from the report's file each link leads where the path of
its artifact leads from the working directory, whatever steps back there are on either.
-/

namespace KeywordSuite

/-- Where a path leads from a directory, unless no file can have it. -/
def FilePath.target? (p : FilePath) (working : List String) : Option (List String) :=
  if p.isBroken then none else some (p.resolve working)

namespace ReportCases

def artifacts (cases : ReportCases) (testId : String) : List ReportArtifact :=
  ((cases.get? testId).map ReportCase.artifacts).getD []

variable {cases : ReportCases} {testId : String}

theorem artifacts_set (other : String) (c : ReportCase) :
    artifacts (Entries.set cases other c) testId = if testId = other then c.artifacts else cases.artifacts testId := by
  unfold artifacts
  rw [Entries.get?_set]
  split <;> rfl

theorem artifacts_record (testName : String) : (cases.record testId testName).artifacts = cases.artifacts testId := by
  unfold record artifacts
  cases cases.get? testId <;> rfl

/-- A change that keeps the artifacts of a record keeps those of all. -/
theorem artifacts_change {f : ReportCase → ReportCase} (keeps : ∀ c, (f c).artifacts = c.artifacts)
    (other testName : String) : artifacts (cases.change other testName f) testId = cases.artifacts testId := by
  unfold change
  rw [artifacts_set, keeps, artifacts_record]
  split
  · rename_i here
    rw [here]
  · rfl

end ReportCases

/-- What is attached to a test case, by path and caption, after one more call. -/
def ReportCall.attached (testId : String) (given : List (String × String)) : ReportCall → List (String × String)
  | .beginSuite => []
  | .beginCase other _ _ => if testId = other then [] else given
  | .attach other _ path caption => if testId = other then given ++ [(path, caption)] else given
  | .log .. | .finishCase .. | .endSuite => given

namespace HtmlReport

/-- What is attached to a test case after some calls since it was last started. -/
def attached (testId : String) (told : List Told) : List (String × String) :=
  told.foldl (fun given m => m.call.attached testId given) []

variable {settings : Settings} {working : List String} {testId : String}

/-! ## Links of the records -/

theorem artifacts_update (now : Timestamp) {r : HtmlReport} (call : ReportCall) {link : String × String → ReportArtifact}
    (links : ∀ path caption, link (path, caption) = ⟨linkTo settings working path, caption⟩)
    {given : List (String × String)} (held : r.cases.artifacts testId = given.map link) :
    (update settings working now r call).cases.artifacts testId = (call.attached testId given).map link := by
  cases call with
  | beginSuite => rfl
  | endSuite => exact held
  | beginCase other testName description =>
    refine (ReportCases.artifacts_set other _).trans ?_
    rw [ReportCall.attached, held]
    split <;> rfl
  | log level other testName message =>
    refine Eq.trans ?_ held
    exact ReportCases.artifacts_change (f := fun c => { c with entries := c.entries ++ [_] }) (fun _ => rfl) other testName
  | finishCase status other testName details =>
    refine Eq.trans ?_ held
    exact ReportCases.artifacts_change (f := fun c => { c with mark := .ofStatus status, details := _ }) (fun _ => rfl) other
      testName
  | attach other testName path caption =>
    refine (ReportCases.artifacts_set other _).trans ?_
    rw [ReportCall.attached]
    split
    · rename_i here
      dsimp only
      rw [ReportCases.artifacts_record, ← here, held, List.map_append, List.map_singleton, links]
    · exact held

theorem artifacts_after {told : List Told} (placed : ∀ m ∈ told, m.working = working) (testId : String) :
    (after settings told).cases.artifacts testId =
      (attached testId told).map fun given => ⟨linkTo settings working given.1, given.2⟩ := by
  induction told using List.reverseRecOn with
  | nil => rfl
  | append_singleton told m ih =>
    have before := ih fun other held => placed other (List.mem_append_left _ held)
    have here := placed m (List.mem_append_right _ List.mem_cons_self)
    unfold after attached at before ⊢
    rw [List.foldl_append, List.foldl_append, List.foldl_cons, List.foldl_nil, List.foldl_cons, List.foldl_nil, here]
    exact artifacts_update m.now m.call (fun _ _ => rfl) before

/-! ## Where links lead -/

theorem target?_linkTo (place : FilePath.IsPlace working) (unbroken : settings.reportsDir.isBroken = false)
    (path : String) : (FilePath.ofText (linkTo settings working path)).target? (settings.reportsDir.resolve working) =
      (FilePath.ofText path).target? working := by
  cases broken : (FilePath.ofText path).isBroken with
  | true =>
    have kept : linkTo settings working path = path := by simp [linkTo, broken]
    simp [kept, FilePath.target?, broken]
  | false =>
    have target := FilePath.isPlace_resolve (FilePath.lawful_ofText path) broken place
    have way : linkTo settings working path = FilePath.relativeText ((FilePath.ofText path).resolve working)
        (settings.reportsDir.resolve working) := by simp [linkTo, broken, unbroken]
    simp [way, FilePath.target?, broken, FilePath.isBroken_relativeText target, FilePath.resolve_relativeText target]

theorem parent_fileAt (settings : Settings) (now : Timestamp) : (fileAt settings now).parent = settings.reportsDir := by
  generalize named : "TestReport_" ++ now.compactText ++ ".html" = name
  have number := slash_not_mem_compactMicrosecondText now
  have plain : '/' ∉ name.toList := by
    simp only [Timestamp.compactMicrosecondText, String.toList_append, List.mem_append, not_or] at number
    simp [← named, number.1]
  have ends : name.toList.getLast? = some 'l' := by
    rw [← named, String.toList_append, List.getLast?_append]
    rfl
  have some : name ≠ "" := by rintro rfl; simp at ends
  have other : name ≠ "." := by rintro rfl; simp at ends
  rw [fileAt, named, FilePath.joinText, FilePath.ofText_name plain some other]
  simp [FilePath.join, FilePath.isAbsolute, FilePath.parent]

theorem parent_of_path_update {now : Timestamp} {r : HtmlReport}
    (before : ∀ file, r.path = some file → file.parent = settings.reportsDir) (call : ReportCall) :
    ∀ file, (update settings working now r call).path = some file → file.parent = settings.reportsDir := by
  cases call with
  | beginSuite =>
    intro file begun
    obtain rfl : fileAt settings now = file := Option.some.inj begun
    exact parent_fileAt settings now
  | beginCase | log | attach | finishCase | endSuite => exact before

theorem parent_of_path_after (told : List Told) :
    ∀ file, (after settings told).path = some file → file.parent = settings.reportsDir := by
  induction told using List.reverseRecOn with
  | nil => exact fun _ never => by cases never
  | append_singleton told m ih =>
    unfold after at ih ⊢
    rw [List.foldl_append, List.foldl_cons, List.foldl_nil]
    exact parent_of_path_update ih m.call

/--
Of each test case a report holds the artifacts attached since it was started, in order, each under its caption
and a link that, from the directory the report is written to, leads to the same file as the artifact's path does
from the working directory.
-/
theorem links_lead_to_artifacts {ε : Type} {settings : Settings} {directory : String}
    (reports : settings.reportsDir = .ofText directory) (unbroken : '\x00' ∉ directory.toList) {p : Platform}
    {kept : Place ε HtmlReport} (lawful : ∀ r e, kept.get (kept.set r e) = r) {working : List String}
    (place : FilePath.IsPlace working) {told : List Told} (placed : ∀ m ∈ told, m.working = working) {h : Host ε}
    (keeps : Keeps settings p kept told h) :
    (∀ file, (kept.get h.outer).path = some file → file.parent = settings.reportsDir) ∧
    ∀ testId, List.Forall₂
      (fun artifact given => artifact.caption = given.2 ∧
        (FilePath.ofText artifact.link).target? (settings.reportsDir.resolve working) =
          (FilePath.ofText given.1).target? working)
      ((kept.get h.outer).cases.artifacts testId) (attached testId told) := by
  have whole : settings.reportsDir.isBroken = false := by
    rw [reports]
    exact FilePath.isBroken_ofText unbroken
  rw [keeps.kept_eq lawful]
  refine ⟨parent_of_path_after told, fun testId => ?_⟩
  rw [artifacts_after placed, List.forall₂_map_left_iff]
  exact List.forall₂_same.2 fun given _ => ⟨rfl, target?_linkTo place whole given.1⟩

theorem exists_reports_outside : ∃ settings, Settings.read [("reports_dir", .text "../out/./reports")] = .valid settings ∧
    settings.reportsDir = .ofText "../out/./reports" := ⟨_, rfl, rfl⟩

def threeArtifacts : List ReportCall :=
  [.beginSuite, .attach "T1" "Login" "lost.png" "Lost", .beginCase "T1" "Login" "",
    .attach "T1" "Login" "shots/../a.png" "Here", .attach "T2" "Logout" "/tmp//x.png" "Elsewhere",
    .attach "T1" "Login" "../../b.png" "Above"]

theorem links_lead_out_of_reports : ∃ (settings : Settings) (h : Host HtmlReport),
    Settings.read [("reports_dir", .text "../out/./reports")] = .valid settings ∧ FilePath.IsPlace ["work"] ∧
      Keeps settings ⟨"", ""⟩ alone (threeArtifacts.map ReportCall.atStart) h ∧
      (h.outer.cases.artifacts "T1").map (·.link) = ["../../work/a.png", "../../b.png"] ∧
      List.Forall₂
        (fun artifact given => artifact.caption = given.2 ∧
          (FilePath.ofText artifact.link).target? ["out", "reports"] = (FilePath.ofText given.1).target? ["work"])
        (h.outer.cases.artifacts "T1") [("shots/../a.png", "Here"), ("../../b.png", "Above")] := by
  obtain ⟨settings, read, reports⟩ := exists_reports_outside
  obtain ⟨h, keeps, -⟩ := exists_keeps settings threeArtifacts (by decide)
  have place : FilePath.IsPlace ["work"] := by
    simp only [FilePath.IsPlace, List.mem_singleton, forall_eq]
    decide
  have placed : ∀ m ∈ threeArtifacts.map ReportCall.atStart, m.working = ["work"] := by
    intro m held
    obtain ⟨call, -, rfl⟩ := List.mem_map.1 held
    rfl
  obtain ⟨-, leads⟩ := links_lead_to_artifacts reports (by decide) (fun _ _ => rfl) place placed keeps
  have starts : settings.reportsDir.resolve ["work"] = ["out", "reports"] := by rw [reports]; decide +kernel
  have links : h.outer.cases.artifacts "T1" = _ :=
    (congrArg (fun r : HtmlReport => r.cases.artifacts "T1") (keeps.kept_eq fun _ _ => rfl)).trans (artifacts_after placed "T1")
  have given : attached "T1" (threeArtifacts.map ReportCall.atStart) = [("shots/../a.png", "Here"), ("../../b.png", "Above")] := by
    decide +kernel
  refine ⟨settings, h, read, place, keeps, ?_, ?_⟩
  · rw [links, given]
    simp only [List.map_cons, List.map_nil, linkTo, reports]
    decide +kernel
  · have held := leads "T1"
    rwa [starts, given] at held

end HtmlReport

end KeywordSuite
