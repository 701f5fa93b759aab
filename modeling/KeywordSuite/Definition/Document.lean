import KeywordSuite.Case.Result
import KeywordSuite.Host.Basic
import KeywordSuite.Json.Reader
import KeywordSuite.Suite.Surroundings
import KeywordSuite.Text.Upper

/-! # Suite documents

A suite document is one JSON text that lists every test case with its keywords and input data. It is
read once, when something in it is first asked for; a document that cannot be read is tried again.
-/

namespace KeywordSuite

structure SuiteEntry where
  testId : String
  testName : String
  description : String
  ticketRef : Option String
  execute : Bool
  keywords : List String
  data : Entries Value

namespace SuiteEntry

def model : String := "JsonTestCase"

/-- Whether to execute is said by Y or N, or like any truth value. -/
def readFlag (v : Value) : Checked Bool :=
  match v with
  | .text s =>
    let flag := Text.upper (Text.strip s)
    if flag = "Y" then .valid true else if flag = "N" then .valid false else Read.bool v
  | _ => Read.bool v

def read (data : Entries Value) : Checked SuiteEntry :=
  SuiteEntry.mk
    <$> field data "test_id" none Read.nonEmptyText
    <*> field data "test_name" (some "") Read.text
    <*> field data "description" (some "") Read.text
    <*> field data "ticket_ref" (some none) (Read.optional Read.text)
    <*> field data "execute" (some true) readFlag
    <*> field data "keywords" (some []) (Read.list Read.text)
    <*> field data "data" (some []) (Read.entries .valid)

def toEntries (e : SuiteEntry) : Entries Value := [
  ("test_id", .text e.testId),
  ("test_name", .text e.testName),
  ("description", .text e.description),
  ("ticket_ref", optionText e.ticketRef),
  ("execute", .bool e.execute),
  ("keywords", .list (e.keywords.map .text)),
  ("data", .dict e.data)]

/-- The descriptor of an entry; without a name it is known by its id. -/
def descriptor (e : SuiteEntry) : CaseDescriptor where
  testId := e.testId
  testName := if e.testName = "" then e.testId else e.testName
  description := e.description
  ticketRef := e.ticketRef

/-- The input data of an entry as texts, with its id unless it has one of its own. -/
def inputTexts (e : SuiteEntry) : Except Fault (Entries Value) := do
  let data ← e.data.mapM fun (key, v) => do return (key, Value.text (← v.cellTextOrFault))
  return if Entries.has data "TestID" then data else data ++ [("TestID", .text e.testId)]

end SuiteEntry

abbrev SuiteDocument := List SuiteEntry

namespace SuiteDocument

def model : String := "JsonSuite"

def ofEntries (data : Entries Value) : Checked SuiteDocument :=
  field data "tests" (some []) (Read.list (Read.model SuiteEntry.model SuiteEntry.read))

def ofValue (v : Value) : Except Fault SuiteDocument :=
  (Read.model model ofEntries v).toExcept model

def read (text : String) : Except Fault SuiteDocument := do ofValue (← Json.read text)

def ofId? (d : SuiteDocument) (testId : String) : Option SuiteEntry :=
  d.find? fun e => e.testId == testId

def activeCases (d : SuiteDocument) : List CaseDescriptor :=
  (d.filter SuiteEntry.execute).map SuiteEntry.descriptor

/-- The keywords of an entry that are not blank. -/
def keywordTexts (e : SuiteEntry) : List Value :=
  (e.keywords.filter fun keyword => !Text.isBlankText keyword).map .text

/-- Whether a fault of loading is reported as one of the test definitions. -/
def isDefinitionFault : Fault → Bool
  | .plain .jsonSyntax _ | .invalid .. => true
  | fault => fault.isSystem

/-- A fault of loading, as a fault of the test definitions where it is one. -/
def loadFault (path : FilePath) (fault : Fault) : Fault :=
  if isDefinitionFault fault then
    .definition ("Failed to load test suite " ++ path.text ++ ": " ++ fault.message)
      (some path.text) (some fault)
  else fault

variable {ε : Type}

/-- The document at a path, as it was first read. -/
def load (path : FilePath) (kept : Place ε (Option SuiteDocument)) : Act (Host ε) SuiteDocument := do
  let h ← get
  match kept.get h.outer with
  | some d => return d
  | none =>
    let d ← Act.ofExcept (((h.files.readText path) >>= read).mapError (loadFault path))
    set { h with outer := kept.set (some d) h.outer }
    Host.logging .info ("Loaded " ++ toString d.length ++ " test cases from " ++ path.text)
    return d

def source (path : FilePath) (kept : Place ε (Option SuiteDocument)) : DefinitionSource (Host ε) where
  listActive := return (← load path kept).activeCases
  loadInput testId := do
    match (← load path kept).ofId? testId with
    | some e => Act.ofExcept e.inputTexts
    | none =>
      Host.logging .warning ("Test data not found for test ID: " ++ testId)
      return []
  loadKeywords testId := do
    match (← load path kept).ofId? testId with
    | some e => return keywordTexts e
    | none =>
      Host.logging .warning ("Test flow not found for test ID: " ++ testId)
      return []

end SuiteDocument

end KeywordSuite
