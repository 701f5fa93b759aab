import KeywordSuite.Number.Rounded
import KeywordSuite.Rehearsal.Basic
import KeywordSuite.Rehearsal.Script
import KeywordSuite.Rehearsal.Tagged

/-! # Rehearsals described in JSON

A description gives the stand-ins, the scripted keywords and the files of a rehearsal. What it leaves
out has a default.
-/

namespace KeywordSuite

namespace Described

/-! ## Fields -/

def items : Value → List Value
  | .list vs => vs
  | _ => []

/-- A field of a description; null where it is absent. -/
def get (v : Value) (name : String) : Value := (v.entries.get? name).getD .null

def has (v : Value) (name : String) : Bool := v.entries.has name

/-- A field with its tagged values decoded. -/
def val (v : Value) (name : String) : Value := Tagged.decode (get v name)

def strOr (default : String) : Value → String
  | .text s => s
  | _ => default

def str (v : Value) : String := strOr "" v

def optStr : Value → Option String
  | .text s => some s
  | _ => none

def txt (v : Value) (name : String) : String := str (get v name)

def truth (default : Bool) : Value → Bool
  | .bool b => b
  | _ => default

def flag (v : Value) (name : String) : Bool := truth false (get v name)

def num : Value → Int
  | .int n => n
  | _ => 0

def strings (v : Value) : List String := (items v).map str

def textEntries (v : Value) : Entries String := v.entries.map fun (key, v) => (key, str v)

def list (v : Value) (name : String) : List Value := items (get v name)

def unitOf : Value → UnitId
  | .int n => .numbered n
  | _ => .calling

/-! ## Faults and stand-ins -/

def faultOf (v : Value) : Fault :=
  Tagged.toFault (txt v "kind") (txt v "message") (optStr (get v "source"))

def optFault : Value → Option Fault
  | .dict kvs => some (faultOf (.dict kvs))
  | _ => none

def browserScript (old : BrowserScript) (v : Value) : BrowserScript where
  failures := if has v "fail" then textEntries (get v "fail") else old.failures
  deadSelectors :=
    if has v "fail_selectors" then strings (get v "fail_selectors") else old.deadSelectors
  enabled := truth old.enabled (get v "enabled")
  checked := truth old.checked (get v "checked")
  title := strOr old.title (get v "title")

def engineScript (old : EngineScript) (v : Value) : EngineScript where
  failures := if has v "fail" then textEntries (get v "fail") else old.failures
  title := strOr old.title (get v "title")
  url := strOr old.url (get v "url")
  visible := truth old.visible (get v "visible")
  enabled := truth old.enabled (get v "enabled")
  checked := truth old.checked (get v "checked")

def rehearsal (engine v : Value) : Rehearsal where
  browser := browserScript {} (get v "browser")
  engine := engineScript {} engine
  mailFaults := (get v "smtp").entries.map fun (stage, fault) => (stage, faultOf fault)

def report (v : Value) : Option (ReportCall → Act Stage (Option String)) :=
  match v with
  | .dict _ => some (Stage.report (strings (get v "fail")) (optStr (get v "path")))
  | _ => none

def capture (s : Settings) : Value → CaptureDevice Stage
  | .null => .absent
  | .text _ => .screenshots s.screenshotsDir
  | v => Stage.capture (optStr (get v "path")) (optStr (get v "fail"))

/-! ## Scripted keywords -/

def scriptStep? (name : String) (arguments : List Value) : Option ScriptStep :=
  let text (n : Nat) : String := str (arguments.getD n .null)
  let value (n : Nat) : Value := Tagged.decode (arguments.getD n .null)
  match name with
  | "set_failed" => some (.fail (text 0))
  | "put" => some (.put (text 0) (value 1))
  | "copy_input" => some (.copyInput (text 0) (text 1))
  | "add_input" => some (.addInput (text 0) (value 1))
  | "open" => some (.openSession true)
  | "open_detached" => some (.openSession false)
  | "close" => some .closeSession
  | "reset" => some .resetSession
  | "cleanup" => some .cleanUp
  | "advance" => some (.advance (value 0))
  | _ => none

def outcome (v : Value) : Except Fault Value :=
  match optFault (get v "raise") with
  | some fault => .error fault
  | none => .ok (val v "return")

/-- The script of a description; `fuel` bounds how deeply branches are nested. -/
def script : (fuel : Nat) → Value → Script
  | 0, v => .finish (outcome v)
  | fuel + 1, v =>
    (list v "do").foldr (fun step rest =>
      match items step with
      | [.text "if_input", key, value, branch] =>
        .ifInput (str key) (Tagged.decode value) (script fuel branch) rest
      | .text name :: arguments =>
        match scriptStep? name arguments with
        | some s => .step s rest
        | none => rest
      | _ => rest) (.finish (outcome v))

def scriptDepth : Nat := 64

def declaration (provider : String) (index : Nat) (v : Value) : KeywordDeclaration where
  name := txt v "name"
  body :=
    if truth true (get v "callable") then
      some ((script scriptDepth v).body (provider ++ "#" ++ toString index) (txt v "name"))
    else none
  mandatory := truth true (get v "mandatory")
  description := txt v "description"

def provider (v : Value) : KeywordProvider where
  name := txt v "name"
  declarations := (list v "keywords").zipIdx.map fun (k, n) => declaration (txt v "name") n k

def providers (v : Value) : List KeywordProvider := (items v).map provider

/-! ## Definitions and listeners -/

/-- The fault of a name, if the description has one, and otherwise what is there. -/
def orFault {α : Type} (v : Value) (name : String) (a : α) : Act Stage α :=
  match optFault (get v name) with
  | some fault => throw fault
  | none => return a

/-- Definitions given case by case; the first of an id counts. -/
def definitions (v : Value) : Except Fault (DefinitionSource Stage) := do
  let cases ← (list v "cases").mapM fun c => do
    let d ← (CaseDescriptor.read (val c "case").entries).toExcept CaseDescriptor.model
    return (d, c)
  let find (testId : String) : Value :=
    ((cases.find? fun entry => entry.1.testId == testId).map (·.2)).getD .null
  return {
    listActive := orFault v "list_error" (cases.map (·.1))
    loadInput := fun testId => orFault (find testId) "data_error" (val (find testId) "data").entries
    loadKeywords := fun testId =>
      orFault (find testId) "flow_error" (items (val (find testId) "flow")) }

/-- A listener by its place: one that mails, or one that records. -/
def listener (s : Settings) (index : Nat) : Value → Listener Stage
  | .text _ => MailReporter.listener s Stage.mailServer (Stage.reporterPlace index)
  | v => Stage.listener index (strings (get v "fail"))

/-! ## Files -/

/-- Makes a file, and the directories above it, as of some time. -/
def putFile (path : FilePath) (content : FileContent) (time : Float) : Act Stage Unit := do
  Host.makePath path.parent
  Host.onFiles fun files => (files.write path content time).mapError fun fault => fault.toFault path

/-- Makes a file of an age in seconds, or a directory where the name ends in a slash. -/
def putAged (name : String) (age : Value) (text : String) : Act Stage Unit := do
  let time := (← MonadState.get).epochSeconds - Stage.secondsOf age
  if name.endsWith "/" then Host.onFiles fun files => files.makePath time (.ofText name)
  else putFile (.ofText name) (.text text) time

/-- A number as a workbook stores it: with sixteen digits at most, and whole where no point is. -/
def storedNumber (x : Float) : Value :=
  match DoubleClass.ofFloat x with
  | .finite negative size =>
    let text := signText negative ++ size.roundedText .general 16 false
    (((readInt? text).map .int).or ((readFloat? text).map .float)).getD .null
  | _ => .null

/-- What is read back from a cell: an empty text is an empty cell, and a date begins its day. -/
def storedCell : Value → Value
  | .text "" => .null
  | .float x => storedNumber x
  | .int n => if n.natAbs < Nat.pow 10 16 then .int n else storedNumber (intToFloat n)
  | .date d => .datetime ⟨d, ⟨0, 0, 0, 0⟩, none⟩
  | v => v

def bookContent : Value → FileContent
  | .text s => .text s
  | book => .workbook (book.entries.map fun (sheet, rows) =>
      (sheet, (items rows).map fun row => (items row).map storedCell))

/-- Writes workbooks under a directory; only real ones make the directories above them. -/
def putBooks (folder : FilePath) (v : Value) : Act Stage Unit :=
  (Tagged.decode v).entries.forM fun (name, book) =>
    let path := folder.joinText name
    match bookContent book with
    | .workbook sheets => do
      Host.makePath path.parent
      Host.writeFile path (.workbook sheets)
    | content => Host.writeFile path content

end Described

end KeywordSuite
