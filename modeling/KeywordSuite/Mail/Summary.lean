import KeywordSuite.Case.Result
import KeywordSuite.Report.Markup
import KeywordSuite.Report.StyleSheet
import KeywordSuite.Settings.Basic

/-! # The summary mail of a suite run

The subject says how the run went. The body lists every result, and the tickets they refer to.
-/

namespace KeywordSuite

/-- The results that refer to one ticket, counted. -/
structure TicketRow where
  ticket : String
  total : Nat
  passed : Nat
  deriving DecidableEq, Repr

namespace TicketRow

def failed (t : TicketRow) : Nat := t.total - t.passed

def successRate (t : TicketRow) : Float := intToFloat t.passed / intToFloat t.total * 100.0

def toEntries (t : TicketRow) : Entries Value := [
  ("ticket", .text t.ticket),
  ("total", .int t.total),
  ("passed", .int t.passed),
  ("failed", .int t.failed),
  ("success_rate", .float t.successRate)]

end TicketRow

namespace MailSummary

/-- The ticket of a result, if it has one that is not empty. -/
def ticket? (r : CaseResult) : Option String :=
  match r.ticketRef with
  | none | some "" => none
  | some ticket => some ticket

def countTicket (rows : Entries TicketRow) (r : CaseResult) : Entries TicketRow :=
  match ticket? r with
  | none => rows
  | some ticket =>
    let row := (rows.get? ticket).getD ⟨ticket, 0, 0⟩
    rows.set ticket
      { row with total := row.total + 1, passed := row.passed + (if r.passed then 1 else 0) }

/-- One row per ticket, in the order the tickets first came. -/
def tickets (results : List CaseResult) : List TicketRow :=
  (results.foldl countTicket []).map (·.2)

def subject (settings : Settings) (s : SuiteSummary) (now : Timestamp) : String :=
  settings.emailSubjectPrefix ++ " - " ++ toString s.passed ++ "/" ++ toString s.total ++ " Passed ("
    ++ (if 0 < s.failed then "FAILURES DETECTED" else "ALL PASSED") ++ ") - " ++ now.minuteText

/-! ## The body -/

open Segment Markup

def headPart (settings : Settings) (s : SuiteSummary) (seconds : String) (now : Timestamp) : Page := [
  markup "
<html>
<head>
<style>
", markup (StyleRule.sheetText 4 mailStyle), markup "</style>
</head>
<body>
    <div class=\"header\">
        <h2>", inserted (settings.reportName ++ " Summary"), markup "</h2>
        <p>Execution Date: ", inserted now.longText, markup "<br>
        Total Execution Time: ", inserted seconds, markup "<br>
        Test Environment: ", inserted settings.environment, markup "</p>
    </div>

    <div class=\"summary\">
        <h3>Executive Summary</h3>
        <p><strong>Execution Period:</strong> ", inserted s.startedAt.secondText, markup " to ",
  inserted (s.completedAt.getD now).secondText, markup "</p>
        <p><strong>Total Tests:</strong> ", number s.total, markup "</p>
        <p><strong>Passed:</strong> <span class=\"passed\">", number s.passed, markup "</span></p>
        <p><strong>Failed:</strong> <span class=\"failed\">", number s.failed, markup "</span></p>
        <p><strong>Success Rate:</strong> ", inserted (fixedFloatText 1 s.successRate), markup "%</p>
    </div>
"]

def resultsHead (keys : List String) : Page :=
  [markup "
    <h3>Detailed Test Results</h3>
    <table>
        <tr>
            <th>Test ID</th>
            <th>Test Name</th>
            <th>Status</th>
            <th>Duration</th>
            <th>Ticket</th>
            "]
  ++ keys.flatMap (fun key => [markup "<th>", inserted key, markup "</th>"])
  ++ [markup "
            <th>Timestamp</th>
            <th>Failure Reason</th>
        </tr>
        "]

def statusText : CaseStatus → String
  | .passed => "PASSED"
  | .failed => "FAILED"

def resultRow (keys : List String) (r : CaseResult) (duration : String) : Page :=
  [markup "
        <tr>
            <td>", inserted r.testId, markup "</td>
            <td>", inserted r.testName, markup "</td>
            <td class=\"", inserted r.status.label, markup "\">", inserted (statusText r.status), markup "</td>
            <td>", inserted duration, markup "</td>
            <td>", inserted ((ticket? r).getD "N/A"), markup "</td>
            "]
  ++ keys.flatMap (fun key =>
    [markup "<td>", inserted ((r.metadata.get? key).getD "N/A"), markup "</td>"])
  ++ [markup "
            <td>", inserted (r.completedAt.getD r.startedAt).secondText, markup "</td>
            <td>", inserted (r.failureReason.getD ""), markup "</td>
        </tr>
        "]

def ticketRow (t : TicketRow) : Page := [
  markup "
        <tr>
            <td>", inserted t.ticket, markup "</td>
            <td>", number t.total, markup "</td>
            <td class=\"passed\">", number t.passed, markup "</td>
            <td class=\"failed\">", number t.failed, markup "</td>
            <td>", inserted (fixedFloatText 1 t.successRate), markup "%</td>
        </tr>
        "]

def ticketsPart (rows : List TicketRow) : Page :=
  if rows.isEmpty then []
  else
    [markup "
    <h3>Ticket Summary</h3>
    <table>
        <tr><th>Ticket</th><th>Total Tests</th><th>Passed</th><th>Failed</th><th>Success Rate</th></tr>
        "] ++ rows.flatMap ticketRow ++ [markup "
    </table>
    "]

def footPart : Page := [markup "

    <hr>
    <h3>Attachments Included</h3>
    <ul>
        <li><strong>Full HTML Report:</strong> detailed test execution results, screenshots and logs</li>
        <li><strong>Screenshots ZIP:</strong> all screenshots captured during the run, including failure screenshots</li>
    </ul>
    <hr>
    <p><em>This report was generated automatically by KeyRunner.</em></p>
</body>
</html>"]

def body (settings : Settings) (s : SuiteSummary) (results : List CaseResult) (now : Timestamp) :
    Except Fault Page := do
  let seconds ← durationText (← s.durationSeconds)
  let keys := settings.resultMetadataKeys
  let rows ← results.mapM fun r => do return resultRow keys r (← r.durationDisplay)
  return headPart settings s seconds now
    ++ resultsHead keys ++ rows.flatten ++ [markup "
    </table>

    "]
    ++ ticketsPart (tickets results) ++ footPart

end MailSummary

end KeywordSuite
