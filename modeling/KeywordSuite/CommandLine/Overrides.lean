import KeywordSuite.CommandLine.Options
import KeywordSuite.Settings.Basic

/-! # Settings under a command line

What a command line gives takes the place of the settings it is about.
-/

namespace KeywordSuite

namespace CommandOptions

def override (o : CommandOptions) (s : Settings) : Except Fault Settings :=
  if o.workers.any (· < 1) then .error (.plain .value "--workers must be at least 1")
  else .ok { s with
    excelDir := o.excelDir.getD s.excelDir
    browser := o.browser.getD s.browser
    headless := o.headless || s.headless
    parallelWorkers := o.workers.getD s.parallelWorkers
    reportsDir := o.output.getD s.reportsDir
    screenshotsDir := (o.output.map fun folder => folder.joinText "screenshots").getD s.screenshotsDir
    emailEnabled := !o.noEmail && s.emailEnabled
    logLevel := if o.debug then .debug else s.logLevel }

end CommandOptions

end KeywordSuite
