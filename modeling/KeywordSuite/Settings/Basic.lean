import KeywordSuite.Fault.Checked
import KeywordSuite.Host.Path
import KeywordSuite.Json.Reader
import KeywordSuite.Log.Level
import KeywordSuite.Session.Config
import KeywordSuite.Text.Lower
import KeywordSuite.Text.Upper

/-! # Settings

What governs a run: the browser, the application under test, the test definitions, execution,
reports, mail and the log. Reading checks every field's constraint.
-/

namespace KeywordSuite

abbrev DirectorySetting := FilePath

structure Settings where
  browser : String
  headless : Bool
  maximizeWindow : Bool
  implicitWaitSeconds : Int
  pageLoadTimeoutSeconds : Int
  viewportWidth : Int
  viewportHeight : Int
  environment : String
  baseUrls : Entries String
  excelDir : DirectorySetting
  testRunnerFile : String
  testFlowFile : String
  testDataFile : String
  maxKeywordColumns : Int
  parallelWorkers : Int
  resultMetadataKeys : List String
  reportsDir : DirectorySetting
  screenshotsDir : DirectorySetting
  reportTitle : String
  reportName : String
  reportCategory : String
  emailEnabled : Bool
  smtpHost : String
  smtpPort : Int
  smtpUsername : String
  smtpPassword : String
  smtpUseTls : Bool
  emailRecipients : List String
  emailSubjectPrefix : String
  logLevel : LogLevel
  logFormat : String
  logFile : Option String
  sanitizeLogs : Bool
  deriving DecidableEq, Repr

namespace Settings

def model : String := "Settings"

def browserName (s : String) : String := Text.lower (Text.strip s)

def readBrowser (v : Value) : Checked String := (Read.text v).map browserName

def readPath : Value → Checked FilePath
  | .text s => .valid (.ofText s)
  | .verdict v => .valid (.ofText v.label)
  | _ => .complain .notPath

def readLevel (v : Value) : Checked LogLevel :=
  (Read.text v).andThen fun s =>
    match LogLevel.ofLabel? (Text.upper s) with
    | some level => .valid level
    | none => .complain (.refused ("Invalid log level: " ++ s))

def readFormat (v : Value) : Checked String :=
  (Read.text v).andThen fun s =>
    if s = "json" || s = "text" then .valid s
    else .complain (.refused ("Invalid log format: " ++ s))

/-- The items of a text that are parted by commas, trimmed, without blank ones. -/
def splitItems (cs : List Char) : List String :=
  ((cs.splitOn ',').map fun item => String.ofList (Text.stripChars item)).filter (· ≠ "")

/-- A list setting may be written as a JSON list or with commas. -/
def listValue : Value → Checked Value
  | .text s =>
    let text := Text.stripChars s.toList
    if text.head? = some '[' then
      match Json.read (String.ofList text) with
      | .ok v => .valid v
      | .error fault => .complain (.refused fault.message)
    else .valid (.list ((splitItems text).map .text))
  | v => .valid v

def readList (v : Value) : Checked (List String) := (listValue v).andThen (Read.list Read.text)

def normalRecipients (recipients : List String) : List String :=
  (recipients.map Text.strip).filter (· ≠ "")

def read (data : Entries Value) : Checked Settings :=
  Settings.mk
    <$> field data "browser" (some "chrome") readBrowser
    <*> field data "headless" (some false) Read.bool
    <*> field data "maximize_window" (some true) Read.bool
    <*> field data "implicit_wait_seconds" (some 10) (Read.intAtLeast 0)
    <*> field data "page_load_timeout_seconds" (some 60) (Read.intAtLeast 1)
    <*> field data "viewport_width" (some 1920) (Read.intAtLeast 800)
    <*> field data "viewport_height" (some 1080) (Read.intAtLeast 600)
    <*> field data "environment" (some "QA") Read.text
    <*> field data "base_urls" (some []) (Read.entries Read.text)
    <*> field data "excel_dir" (some (.ofText "resources/excel")) readPath
    <*> field data "test_runner_file" (some "TestRunner.xlsx") Read.text
    <*> field data "test_flow_file" (some "TestFlow.xlsx") Read.text
    <*> field data "test_data_file" (some "TestData.xlsx") Read.text
    <*> field data "max_keyword_columns" (some 20) (Read.intAtLeast 1)
    <*> field data "parallel_workers" (some 1) (Read.intBetween 1 32)
    <*> field data "result_metadata_keys" (some ["TECS_ID"]) readList
    <*> field data "reports_dir" (some (.ofText "reports")) readPath
    <*> field data "screenshots_dir" (some (.ofText "reports/screenshots")) readPath
    <*> field data "report_title" (some "UI Test Automation Report") Read.text
    <*> field data "report_name" (some "UI Test Execution Report") Read.text
    <*> field data "report_category" (some "UI Tests") Read.text
    <*> field data "email_enabled" (some false) Read.bool
    <*> field data "smtp_host" (some "smtp.gmail.com") Read.text
    <*> field data "smtp_port" (some 587) (Read.intBetween 1 65535)
    <*> field data "smtp_username" (some "") Read.text
    <*> field data "smtp_password" (some "") Read.text
    <*> field data "smtp_use_tls" (some true) Read.bool
    <*> ((field data "email_recipients" (some []) readList).map normalRecipients)
    <*> field data "email_subject_prefix" (some "UI Automation Results") Read.text
    <*> field data "log_level" (some .info) readLevel
    <*> field data "log_format" (some "text") readFormat
    <*> field data "log_file" (some none) (Read.optional Read.text)
    <*> field data "sanitize_logs" (some true) Read.bool

def toEntries (s : Settings) : Entries Value := [
  ("browser", .text s.browser),
  ("headless", .bool s.headless),
  ("maximize_window", .bool s.maximizeWindow),
  ("implicit_wait_seconds", .int s.implicitWaitSeconds),
  ("page_load_timeout_seconds", .int s.pageLoadTimeoutSeconds),
  ("viewport_width", .int s.viewportWidth),
  ("viewport_height", .int s.viewportHeight),
  ("environment", .text s.environment),
  ("base_urls", .dict (s.baseUrls.map fun (name, url) => (name, .text url))),
  ("excel_dir", .text s.excelDir.text),
  ("test_runner_file", .text s.testRunnerFile),
  ("test_flow_file", .text s.testFlowFile),
  ("test_data_file", .text s.testDataFile),
  ("max_keyword_columns", .int s.maxKeywordColumns),
  ("parallel_workers", .int s.parallelWorkers),
  ("result_metadata_keys", .list (s.resultMetadataKeys.map .text)),
  ("reports_dir", .text s.reportsDir.text),
  ("screenshots_dir", .text s.screenshotsDir.text),
  ("report_title", .text s.reportTitle),
  ("report_name", .text s.reportName),
  ("report_category", .text s.reportCategory),
  ("email_enabled", .bool s.emailEnabled),
  ("smtp_host", .text s.smtpHost),
  ("smtp_port", .int s.smtpPort),
  ("smtp_username", .text s.smtpUsername),
  ("smtp_password", .text s.smtpPassword),
  ("smtp_use_tls", .bool s.smtpUseTls),
  ("email_recipients", .list (s.emailRecipients.map .text)),
  ("email_subject_prefix", .text s.emailSubjectPrefix),
  ("log_level", .text s.logLevel.label),
  ("log_format", .text s.logFormat),
  ("log_file", optionText s.logFile),
  ("sanitize_logs", .bool s.sanitizeLogs)]

def sessionConfig (s : Settings) : SessionConfig where
  browser := s.browser
  headless := s.headless
  maximizeWindow := s.maximizeWindow
  implicitWaitSeconds := s.implicitWaitSeconds
  pageLoadTimeoutSeconds := s.pageLoadTimeoutSeconds
  viewportWidth := s.viewportWidth
  viewportHeight := s.viewportHeight

/-- The base URL of the environment, or of QA where the environment has none. -/
def baseUrl (s : Settings) : Option String :=
  match s.baseUrls.get? s.environment with
  | some url => some url
  | none => s.baseUrls.get? "QA"

def baseUrlLines (s : Settings) : List (LogLevel × String) :=
  if s.baseUrls.has s.environment then []
  else [(.warning, "Base URL not found for environment: " ++ s.environment
    ++ ". Using QA environment as fallback.")]

def testRunnerPath (s : Settings) : FilePath := s.excelDir.joinText s.testRunnerFile

def testFlowPath (s : Settings) : FilePath := s.excelDir.joinText s.testFlowFile

def testDataPath (s : Settings) : FilePath := s.excelDir.joinText s.testDataFile

end Settings

end KeywordSuite
