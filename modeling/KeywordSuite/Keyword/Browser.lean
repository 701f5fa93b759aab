import KeywordSuite.Keyword.Registry
import KeywordSuite.Settings.Basic
import KeywordSuite.Text.Search

/-! # Keywords that drive the browser

Nine keywords that act on the live session of the unit a test case runs on. Each takes its inputs
from the input data, tells the report what it does, and turns a fault of the session into a failure.
-/

namespace KeywordSuite

namespace BrowserKeyword

variable (settings : Settings) (id : CaseIdentity)

/-! ## Reporting -/

/-- Tells the report; a fault of it is only logged. -/
def tell (level : EntryLevel) (message : String) : KeywordProcedure Unit := do
  let call : ReportCall := .log level id.testId id.testName message
  if let .error fault ← (KeywordProcedure.shared (.report call)).attempt then
    KeywordProcedure.log .error ("Report sink call " ++ call.method ++ " failed: " ++ fault.message)

def announce (message : String) : KeywordProcedure Unit := do
  KeywordProcedure.log .info message
  tell id .info message

def succeed (message : String) : KeywordProcedure Value := do
  KeywordProcedure.log .info message
  tell id .passed message
  return .bool true

def refuse (message : String) (soft : Bool := false) : KeywordProcedure Value := do
  KeywordProcedure.log .error message
  if !soft then KeywordProcedure.perform (.fail message)
  tell id .failed message
  return .bool false

def guarded (action : String) (body : KeywordProcedure Value) (soft : Bool := false) :
    KeywordProcedure Value := do
  match ← body.attempt with
  | .ok v => return v
  | .error fault => refuse id ("Failed to " ++ action ++ ": " ++ fault.message) soft

/-- Captures the view and attaches it to the report: where it was saved. -/
def capture (label caption : String) : KeywordProcedure (Option String) := do
  let path ← KeywordProcedure.shared (.captureOnDemand label id.unit)
  match path with
  | none | some "" => return path
  | some file =>
    if let .error fault ←
        (KeywordProcedure.shared (.report (.attach id.testId id.testName file caption))).attempt then
      KeywordProcedure.log .error ("Failed to attach screenshot: " ++ fault.message)
    return path

/-! ## Sessions and inputs -/

/-- The attached session if it is the live one, otherwise the live one, which is then attached. -/
def session : KeywordProcedure SessionId := do
  let attached ← KeywordProcedure.perform .attached
  let current ← match attached with
    | some session => KeywordProcedure.shared (.isCurrent session id.unit)
    | none => pure false
  match attached, current with
  | some session, true => return session
  | _, _ =>
    let session ← KeywordProcedure.shared (.currentSession id.unit)
    KeywordProcedure.perform (.attach (some session))
    return session

def browse (call : SessionCall) : KeywordProcedure call.Reply := do
  KeywordProcedure.shared (.browse (← session id) call)

/-- The text of an input, where there is one and it is not empty. -/
def filled (key : String) : KeywordProcedure (Option String) := do
  match ← KeywordProcedure.inputText key with
  | none | some "" => return none
  | some text => return some text

def notProvided (key : String) : String := key ++ " not provided in test data"

/-! ## The keywords -/

def openBrowser : KeywordProcedure Value := do
  announce id "Executing OPEN_BROWSER keyword"
  guarded id "open browser" do
    let session ← KeywordProcedure.shared (.openSession (some settings.sessionConfig) id.unit)
    KeywordProcedure.perform (.attach (some session))
    succeed id "Browser opened successfully"

def closeBrowser : KeywordProcedure Value := do
  announce id "Executing CLOSE_BROWSER keyword"
  match ← (KeywordProcedure.shared (.closeSession id.unit)).attempt with
  | .error fault => refuse id ("Failed to close browser: " ++ fault.message) true
  | .ok _ =>
    KeywordProcedure.perform (.attach none)
    succeed id "Browser closed successfully"

def isPlain (c : Char) : Bool := c.isAlphanum

def pageLabel (url : String) : String :=
  "Navigate_To_" ++ String.ofList (url.toList.map fun c => if isPlain c then c else '_')

def visit (url : String) : KeywordProcedure Value :=
  guarded id "navigate to URL" do
    browse id (.navigate url)
    let done ← succeed id ("Navigated to URL: " ++ url)
    let _ ← capture id (pageLabel url) "Navigation Screenshot"
    return done

def logAll : List (LogLevel × String) → KeywordProcedure Unit
  | [] => return ()
  | (level, message) :: rest => do
    KeywordProcedure.log level message
    logAll rest

def navigateTo : KeywordProcedure Value := do
  announce id "Executing NAVIGATE_TO keyword"
  match ← filled "URL" with
  | some url => visit id url
  | none =>
    logAll settings.baseUrlLines
    match settings.baseUrl with
    | none | some "" => refuse id "URL not provided in test data and no base URL configured"
    | some url =>
      announce id ("URL not provided in test data, using base URL: " ++ url)
      visit id url

def click : KeywordProcedure Value := do
  announce id "Executing CLICK keyword"
  match ← filled "Element" with
  | none => refuse id (notProvided "Element")
  | some element =>
    guarded id ("click element " ++ element) do
      browse id (.click element)
      succeed id ("Clicked element: " ++ element)

/-- Types a text; an empty one clears the field. -/
def typeText : KeywordProcedure Value := do
  announce id "Executing TYPE keyword"
  match ← filled "Element" with
  | none => refuse id (notProvided "Element")
  | some element =>
    let text ← KeywordProcedure.inputText "Text"
    guarded id ("type into element " ++ element) do
      browse id (.fill element (text.getD ""))
      succeed id ("Entered text into element: " ++ element)

inductive ElementState
  | visible
  | hidden
  | enabled
  | disabled
  | checked
  deriving DecidableEq, Repr

namespace ElementState

def label : ElementState → String
  | .visible => "visible"
  | .hidden => "hidden"
  | .enabled => "enabled"
  | .disabled => "disabled"
  | .checked => "checked"

def all : List ElementState := [.visible, .hidden, .enabled, .disabled, .checked]

def ofLabel? (s : String) : Option ElementState := all.find? fun state => state.label == s

end ElementState

/-- Whether an element is in a state; visible and hidden are waited for. -/
def isInState (element : String) : ElementState → KeywordProcedure Bool
  | .visible => do
    browse id (.waitForState element "visible")
    return true
  | .hidden => do
    browse id (.waitForState element "hidden")
    return true
  | .enabled => browse id (.isEnabled element)
  | .disabled => do return !(← browse id (.isEnabled element))
  | .checked => browse id (.isChecked element)

def verifyElement : KeywordProcedure Value := do
  announce id "Executing VERIFY_ELEMENT keyword"
  match ← filled "Element" with
  | none => refuse id (notProvided "Element")
  | some element =>
    let name := Text.lower (Text.strip ((← filled "State").getD "visible"))
    match ElementState.ofLabel? name with
    | none => refuse id ("Unsupported element state: " ++ name)
    | some state =>
      guarded id ("verify element " ++ element) do
        if ← isInState id element state then
          succeed id ("Element " ++ element ++ " is " ++ state.label)
        else refuse id ("Element " ++ element ++ " is not " ++ state.label)

/-- A mismatch is reported but does not fail the test case. -/
def verifyTitle : KeywordProcedure Value := do
  announce id "Executing VERIFY_TITLE keyword"
  match ← filled "Title" with
  | none => refuse id (notProvided "Title") true
  | some expected =>
    match ← (browse id .title).attempt with
    | .error fault => refuse id ("Failed to read page title: " ++ fault.message) true
    | .ok actual =>
      if Text.holds expected.toList actual.toList then
        succeed id ("Page title verified: " ++ actual)
      else
        refuse id ("Page title mismatch. Expected: " ++ expected ++ ", Actual: " ++ actual) true

def wait : KeywordProcedure Value := do
  let raw := (← filled "Seconds").getD "1"
  match readFloat? raw with
  | none => refuse id ("Invalid wait time: " ++ raw)
  | some seconds =>
    if seconds < 0.0 then refuse id ("Invalid wait time: " ++ raw)
    else
      announce id ("Waiting for " ++ briefFloatText seconds ++ " seconds")
      KeywordProcedure.shared (.sleep seconds)
      return .bool true

def takeScreenshot : KeywordProcedure Value := do
  let name := (← filled "ScreenshotName").getD (id.testId ++ "_screenshot")
  match ← capture id name name with
  | none => refuse id ("Failed to capture screenshot: " ++ name) true
  | some path =>
    KeywordProcedure.perform (.put "LAST_SCREENSHOT" (.text path))
    return .null

def provider : KeywordProvider where
  name := "BrowserKeywords"
  declarations := [
    ⟨"OPEN_BROWSER", some (openBrowser settings), true, "Open a browser session"⟩,
    ⟨"CLOSE_BROWSER", some closeBrowser, true, "Close the browser session"⟩,
    ⟨"NAVIGATE_TO", some (navigateTo settings), true, "Navigate to URL or the base URL"⟩,
    ⟨"CLICK", some click, true, "Click Element"⟩,
    ⟨"TYPE", some typeText, true, "Type Text into Element"⟩,
    ⟨"VERIFY_ELEMENT", some verifyElement, true, "Check Element is in State"⟩,
    ⟨"VERIFY_TITLE", some verifyTitle, false, "Check the page title contains Title"⟩,
    ⟨"WAIT", some wait, true, "Pause for Seconds"⟩,
    ⟨"TAKE_SCREENSHOT", some takeScreenshot, false, "Capture the current page"⟩]

end BrowserKeyword

end KeywordSuite
