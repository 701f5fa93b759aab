import KeywordSuite.Report.HtmlCase
import KeywordSuite.Report.Markup
import KeywordSuite.Report.StyleSheet

/-! # The page of a suite report -/

namespace KeywordSuite

structure ReportHeading where
  title : String
  name : String
  category : String
  startedAt : String
  generatedAt : String
  environment : List (String × String)

namespace HtmlPage

open Segment Markup

def headPart (h : ReportHeading) : Page := [
  markup "
<!DOCTYPE html>
<html lang=\"en\">
<head>
    <meta charset=\"UTF-8\">
    <meta name=\"viewport\" content=\"width=device-width, initial-scale=1.0\">
    <title>", inserted h.title, markup "</title>
    <style>
", markup (StyleRule.sheetText 8 reportStyle), markup "    </style>
</head>
<body>
    <div class=\"container\">
        <h1>", inserted h.name, markup "</h1>
        <div class=\"report-info\">
            Started: ", inserted h.startedAt, markup " | Generated: ", inserted h.generatedAt, markup "
        </div>
"]

/-- A number with what it counts; `styleName` colours it. -/
def metric (styleName value unit label : String) : Page := [
  markup ("            <div class=\"metric\">
                <div class=\"" ++ styleName ++ "\">"), inserted value, markup (unit ++ "</div>
                <div class=\"metric-label\">" ++ label ++ "</div>
            </div>
")]

def metricsPart (cases : ReportCases) : Page :=
  [markup "
        <div class=\"summary\">
"]
  ++ metric "metric-value" (toString cases.length) "" "Test Cases"
  ++ metric "metric-value passed" (toString (cases.count .passed)) "" "Passed"
  ++ metric "metric-value failed" (toString (cases.count .failed)) "" "Failed"
  ++ metric "metric-value" (toString cases.successPercent) "%" "Success Rate"
  ++ [markup "        </div>
"]

def environmentRow (row : String × String) : Page := [
  markup "
            <tr><th width=\"200\">", inserted row.1, markup "</th><td>", inserted row.2, markup "</td></tr>
            "]

def environmentPart (rows : List (String × String)) : Page :=
  [markup "
        <h2>Environment</h2>
        <table>
            "] ++ rows.flatMap environmentRow ++ [markup "
        </table>
"]

def entryRow (e : ReportEntry) : Page := [
  markup "
                    <tr>
                        <td>", inserted e.time, markup "</td>
                        <td><span class=\"", inserted e.level.label, markup "\">", inserted e.level.upperLabel,
  markup "</span></td>
                        <td>", inserted e.message, markup "</td>
                    </tr>
                    "]

def artifactPart (a : ReportArtifact) : Page := [
  markup "
            <div class=\"screenshot-container\">
                <div>", inserted a.caption, markup "</div>
                <a href=\"", inserted a.link, markup "\"><img src=\"", inserted a.link,
  markup "\" alt=\"", inserted a.caption, markup "\"></a>
            </div>
            "]

def optionalPart (opening text : String) : Page :=
  if text = "" then [] else [markup opening, inserted text, markup "</div>"]

def casePart (category : String) (c : ReportCase) : Page :=
  [markup "
        <div class=\"test-case ", inserted c.mark.label, markup "\">
            <div class=\"test-header\">
                <h3>", inserted c.testId, markup " - ", inserted c.testName, markup "</h3>
                <div>
                    <span class=\"category\">", inserted category, markup "</span>
                    <strong class=\"", inserted c.mark.label, markup "\">", inserted c.mark.upperLabel,
    markup "</strong>
                </div>
            </div>
            "]
  ++ optionalPart "<div>" c.description
  ++ [markup "
            <table>
                <thead>
                    <tr><th width=\"120\">Time</th><th width=\"100\">Status</th><th>Details</th></tr>
                </thead>
                <tbody>
                    "]
  ++ c.entries.flatMap entryRow
  ++ [markup "
                </tbody>
            </table>
            "]
  ++ c.artifacts.flatMap artifactPart
  ++ [markup "
            "]
  ++ optionalPart "<div class=\"details\">" c.details
  ++ [markup "
        </div>
        "]

def casesPart (category : String) (cases : ReportCases) : Page :=
  [markup "
        <h2>Test Cases</h2>
        "] ++ cases.list.flatMap (casePart category)

def footPart : Page := [markup "

        <div class=\"footer\">
            Generated by KeyRunner
        </div>
    </div>
</body>
</html>"]

def page (h : ReportHeading) (cases : ReportCases) : Page :=
  headPart h ++ metricsPart cases ++ environmentPart h.environment ++ casesPart h.category cases
    ++ footPart

end HtmlPage

end KeywordSuite
