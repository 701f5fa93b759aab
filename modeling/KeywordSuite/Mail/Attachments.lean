import KeywordSuite.Host.Basic
import KeywordSuite.Settings.Basic

/-! # What a summary mail carries

The latest report, and an archive of the screenshots of the last day.
-/

namespace KeywordSuite

structure MailAttachment where
  name : String
  content : FileContent

namespace MailAttachment

def disposition (a : MailAttachment) : String := "attachment; filename=\"" ++ a.name ++ "\""

def isReportName (name : String) : Bool :=
  name.startsWith "TestReport_" && name.endsWith ".html" && 16 ≤ name.length

def modifiedAt : FileNode → Float
  | .directory made => made
  | .file _ modified => modified

/-- The first of the entries that were modified last. -/
def latest : List (String × Float) → Option (String × Float)
  | [] => none
  | e :: rest =>
    match latest rest with
    | none => some e
    | some other => if e.2 < other.2 then some other else some e

variable {ε : Type} (settings : Settings)

def latestReport : Act (Host ε) (Option FilePath) := do
  let directory := settings.reportsDir
  let files := (← get).files
  if !(← Act.ofExcept (files.isThere directory)) then
    Host.logging .warning ("Reports directory not found: " ++ directory.text)
    return none
  let reports := (files.listDirectory directory).filter fun (name, _) => isReportName name
  match latest (reports.map fun (name, node) => (name, modifiedAt node)) with
  | none =>
    Host.logging .warning ("No HTML report files found in: " ++ directory.text)
    return none
  | some (name, _) => return some (directory.joinText name)

def screenshotEndings : List String := [".png", ".jpg", ".jpeg"]

/-- The age in seconds beyond which a screenshot is left out. -/
def oldest : Float := 86400.0

def isRecentScreenshot (now : Float) : String × FileNode → Bool
  | (_, .directory _) => false
  | (name, .file _ modified) =>
    screenshotEndings.contains (Text.lower (FilePath.ofText name).suffix) && now - oldest ≤ modified

/-- Archives the screenshots of the last day: where, if there are any. -/
def archiveScreenshots : Act (Host ε) (Option FilePath) := do
  let directory := settings.screenshotsDir
  let h ← get
  match h.files.find directory with
  | .error .nameTooLong => throw (FileFault.nameTooLong.toFault directory)
  | .error _ =>
    Host.logging .warning ("Screenshots directory not found: " ++ directory.text)
    return none
  | .ok (.file ..) => throw (FileFault.notDirectory.toFault directory)
  | .ok (.directory _) =>
    let recent := (h.files.listDirectory directory).filter (isRecentScreenshot h.epochSeconds)
    let names := (recent.map (·.1)).mergeSort fun a b => a ≤ b
    if names.isEmpty then
      Host.logging .info ("No screenshot files found in: " ++ directory.text)
      return none
    let archive := directory.joinText ("Screenshots_" ++ h.localNow.dashedText ++ ".zip")
    Host.writeFile archive (.archive names)
    Host.logging .info ("Created screenshots ZIP for attachment: " ++ archive.text)
    return some archive

def ofFile (name : String) (path : FilePath) : Act (Host ε) MailAttachment := do
  match (← get).files.find path with
  | .error fault => throw (fault.toFault path)
  | .ok (.directory _) => throw (FileFault.isDirectory.toFault path)
  | .ok (.file content _) =>
    Host.logging .info ("Attached " ++ path.text)
    return ⟨name, content⟩

/-- The attachments of a mail; a fault of the archive leaves it out. -/
def all : Act (Host ε) (List MailAttachment) := do
  let time := (← get).localNow.dashedText
  let report ← latestReport settings
  let archive ← match ← (archiveScreenshots settings).attempt with
    | .ok archive => pure archive
    | .error fault =>
      if fault.isSystem then
        Host.logging .error ("Error creating screenshots ZIP file: " ++ fault.message)
        pure none
      else throw fault
  let reports ← report.toList.mapM (ofFile ("Test_Report_" ++ time ++ ".html"))
  let archives ← archive.toList.mapM (ofFile ("Test_Screenshots_" ++ time ++ ".zip"))
  return reports ++ archives

end MailAttachment

end KeywordSuite
