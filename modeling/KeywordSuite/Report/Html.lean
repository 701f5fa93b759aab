import KeywordSuite.Host.Basic
import KeywordSuite.Report.HtmlPage
import KeywordSuite.Settings.Basic

/-! # The HTML report of a suite

A report collects what it is told about test cases while the suite runs, and is written as one file
when the suite ends. With sanitizing on, messages and details are sanitized as they come.
-/

namespace KeywordSuite

structure HtmlReport where
  cases : ReportCases := []
  startedAt : Option Timestamp := none
  /-- Where the report is written; nowhere until the suite has begun. -/
  path : Option FilePath := none

/-- What the report says about the machine it was made on. -/
structure Platform where
  system : String
  interpreter : String

namespace HtmlReport

variable (settings : Settings)

def sanitize (text : String) : String :=
  if settings.sanitizeLogs then Sanitizer.standard.sanitizeString text else text

def clockTime (now : Timestamp) : String := now.time.clockText

def fileAt (now : Timestamp) : FilePath :=
  settings.reportsDir.joinText ("TestReport_" ++ now.compactText ++ ".html")

/-- The way from the directory of reports to an artifact; where there can be none, the path is kept as it is. -/
def linkTo (working : List String) (path : String) : String :=
  let artifact := FilePath.ofText path
  if artifact.isBroken || settings.reportsDir.isBroken then path
  else FilePath.relativeText (artifact.resolve working) (settings.reportsDir.resolve working)

/-- The report after a call that is about a test case or begins the suite. -/
def update (working : List String) (now : Timestamp) (r : HtmlReport) : ReportCall → HtmlReport
  | .beginSuite => ⟨[], some now, some (fileAt settings now)⟩
  | .beginCase testId testName description =>
    { r with cases := r.cases.start testId testName description }
  | .log level testId testName message =>
    { r with cases :=
        r.cases.addEntry testId testName ⟨clockTime now, level, sanitize settings message⟩ }
  | .attach testId testName path caption =>
    { r with cases := r.cases.addArtifact testId testName ⟨linkTo settings working path, caption⟩ }
  | .finishCase status testId testName details =>
    { r with cases := r.cases.finish testId testName (.ofStatus status) (sanitize settings details) }
  | .endSuite => r

def environmentTable (p : Platform) : List (String × String) := [
  ("OS", p.system),
  ("Python Version", p.interpreter),
  ("Browser", settings.browser),
  ("Environment", settings.environment),
  ("Base URL", match settings.baseUrl with
    | none | some "" => "N/A"
    | some url => url)]

def heading (p : Platform) (r : HtmlReport) (now : Timestamp) : ReportHeading where
  title := settings.reportTitle
  name := settings.reportName
  category := settings.reportCategory
  startedAt := (r.startedAt.map Timestamp.secondText).getD ""
  generatedAt := now.secondText
  environment := environmentTable settings p

def text (p : Platform) (r : HtmlReport) (now : Timestamp) : String :=
  Markup.render (HtmlPage.page (heading settings p r now) r.cases)

variable {ε : Type}

def finish (p : Platform) (r : HtmlReport) : Act (Host ε) (Option String) := do
  match r.path with
  | none =>
    Host.logging .warning "end_suite called before begin_suite; nothing to write"
    return none
  | some path =>
    let h ← get
    modify (Host.noteAll settings.baseUrlLines)
    Host.makePath path.parent
    Host.writeFile path (.text (text settings p r h.localNow))
    Host.logging .info ("Generated HTML report: " ++ path.text)
    return some path.text

def receive (p : Platform) (kept : Place ε HtmlReport) (call : ReportCall) :
    Act (Host ε) (Option String) := do
  let h ← get
  let r := update settings h.files.working h.localNow (kept.get h.outer) call
  set { h with outer := kept.set r h.outer }
  match call with
  | .beginSuite =>
    Host.logging .info
      ("HTML report will be written to " ++ (fileAt settings h.localNow).text)
    return none
  | .endSuite => finish settings p r
  | _ => return none

end HtmlReport

end KeywordSuite
