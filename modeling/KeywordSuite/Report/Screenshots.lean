import KeywordSuite.Host.Path
import KeywordSuite.Session.Registry

/-! # Screenshots of live sessions

A screenshot of a unit's live session is saved in one directory under a label and the time.
Capturing never ends in an ordinary fault: without a session, or if saving fails, there is no path.
-/

namespace KeywordSuite

namespace Screenshots

def isForbidden (c : Char) : Bool := ['\\', '/', ':', '*', '?', '"', '<', '>', '|'].contains c

def fileName (name : String) : String :=
  String.ofList (name.toList.map fun c => if isForbidden c then '_' else c)

def path (directory : FilePath) (label : String) (now : Timestamp) : FilePath :=
  directory.joinText (fileName label ++ "_" ++ now.compactMicrosecondText ++ ".png")

variable {ω : Type} (b : SessionBackend ω) (clock : ω → Timestamp) (directory : FilePath)

def onDemand (label : String) (unit : UnitId) : Act (World ω) (Option String) := do
  match ← (SessionBackend.current unit).attempt with
  | .error fault =>
    b.note .error ("Cannot take screenshot - no browser session: " ++ fault.message)
    return none
  | .ok session =>
    let file := (path directory label (clock (← get).outer)).text
    match ← (World.zoom (b.browse session (.saveScreenshot file))).attempt with
    | .error fault =>
      b.note .error ("Failed to take screenshot: " ++ label ++ ": " ++ fault.message)
      return none
    | .ok _ =>
      b.note .info ("Screenshot saved: " ++ file)
      return some file

def onFailure (testId testName : String) (unit : UnitId) : Act (World ω) (Option String) := do
  if ← SessionBackend.isActive unit then
    onDemand b clock directory ("FAILURE_" ++ testId ++ "_" ++ testName) unit
  else
    b.note .info ("No browser session to capture for failed test " ++ testId)
    return none

end Screenshots

end KeywordSuite
