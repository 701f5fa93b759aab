import KeywordSuite.Settings.Basic
import KeywordSuite.Suite.Surroundings
import KeywordSuite.Host.Basic

/-! # Workbooks of test definitions

Test cases, their keywords and their input data stand in three workbooks. A sheet is a header row and
rows of cells; read, each row is a mapping from headers to texts. A sheet is read once.
-/

namespace KeywordSuite

abbrev SheetRow := Entries String

namespace Workbook

/-- The ending of a file name, in lower case: its last dot, but not a leading one, and what follows. -/
def extension (path : FilePath) : String :=
  let name := path.name.toList.dropWhile (· = '.')
  if name.contains '.' then
    Text.lower (String.ofList ('.' :: (name.reverse.takeWhile (· != '.')).reverse))
  else ""

def extensions : List String := [".xlsx", ".xlsm", ".xltx", ".xltm"]

def extensionFault? (extension : String) : Option String :=
  if extensions.contains extension then none
  else if extension = ".xls" then
    some ("openpyxl does not support the old .xls file format, please use xlrd to read this file, "
      ++ "or convert it to the more recent .xlsx file format.")
  else if extension = ".xlsb" then
    some ("openpyxl does not support binary format .xlsb, please convert this file to .xlsx format "
      ++ "if you want to open it with openpyxl")
  else
    some ("openpyxl does not support " ++ extension ++ " file format, please check you can open it "
      ++ "with Excel first. Supported formats are: " ++ ",".intercalate extensions)

def ofFile (files : Files) (path : FilePath) : Except Fault Workbook :=
  match extensionFault? (extension path) with
  | some message => .error (.plain .badWorkbookName message)
  | none =>
    match files.find path with
    | .error fault => .error (fault.toFault path)
    | .ok (.directory _) => .error (FileFault.isDirectory.toFault path)
    | .ok (.file (.workbook book) _) => .ok book
    | .ok (.file (.archive _) _) =>
      .error (.plain .missingKey
        (Text.quoted "There is no item named '[Content_Types].xml' in the archive"))
    | .ok (.file ..) => .error (.plain .badArchive "File is not a zip file")

def isEmptyCell : Value → Bool
  | .null => true
  | _ => false

def isEmptyRow (row : List Value) : Bool := row.all isEmptyCell

/-- The rows of a sheet, all as long as the longest, without empty ones at the end. -/
def evenRows (rows : List (List Value)) : List (List Value) :=
  let width := (rows.map List.length).foldl max 0
  let kept := (rows.reverse.dropWhile isEmptyRow).reverse
  kept.map fun row => row ++ List.replicate (width - row.length) .null

/-- The texts of a header row; an empty cell is named by its place. -/
def headers (row : List Value) : Except Fault (List String) :=
  row.zipIdx.mapM fun (cell, n) =>
    if isEmptyCell cell then .ok ("Column" ++ toString n) else cell.cellTextOrFault

/-- The texts of a row; the last cell under a header counts. -/
def rowTexts (headers : List String) (row : List Value) : Except Fault SheetRow := do
  let cells ← (headers.zip row).mapM fun (header, cell) => do
    return (header, ← cell.cellTextOrFault)
  return Entries.setAll [] cells

def idColumn : String := "TestID"

def filled? (row : SheetRow) (header : String) : Option String :=
  match row.get? header with
  | none | some "" => none
  | some text => some text

/-- The rows below the header row that have an id. -/
def table : List (List Value) → Except Fault (List SheetRow)
  | [] => .ok []
  | header :: rows => do
    let headers ← headers header
    let rows ← rows.mapM (rowTexts headers)
    return rows.filter fun row => (filled? row idColumn).isSome

end Workbook

abbrev SheetShelf := Entries (List SheetRow)

/-- The workbooks of a suite, and how many keywords a row has at most. -/
structure WorkbookPaths where
  runner : FilePath
  flow : FilePath
  data : FilePath
  maxKeywords : Int

def WorkbookPaths.ofSettings (s : Settings) : WorkbookPaths :=
  ⟨s.testRunnerPath, s.testFlowPath, s.testDataPath, s.maxKeywordColumns⟩

namespace Workbook

variable {ε : Type}

/-- The rows of a sheet; a sheet that is not there has none. -/
def readSheet (path : FilePath) (sheet : String) : Act (Host ε) (List SheetRow) := do
  match ofFile (← get).files path with
  | .error fault =>
    throw (.definition ("Failed to read workbook " ++ path.text ++ ": " ++ fault.message)
      (some path.text) (some fault))
  | .ok book =>
    match book.get? sheet with
    | none =>
      Host.logging .error ("Sheet not found: " ++ sheet ++ " in " ++ path.text)
      return []
    | some rows =>
      let rows := evenRows rows
      if rows.isEmpty then
        Host.logging .warning ("Header row is empty in sheet: " ++ sheet)
      Act.ofExcept (table rows)

variable (shelf : Place ε SheetShelf)

/-- The rows of a sheet, as they were first read. -/
def sheetRows (path : FilePath) (sheet : String) : Act (Host ε) (List SheetRow) := do
  let key := path.text ++ "::" ++ sheet
  match (shelf.get (← get).outer).get? key with
  | some rows => return rows
  | none =>
    let rows ← readSheet path sheet
    modify fun h => { h with outer := shelf.set ((shelf.get h.outer).set key rows) h.outer }
    return rows

def findRow (path : FilePath) (sheet testId : String) : Act (Host ε) (Option SheetRow) := do
  return (← sheetRows shelf path sheet).find? fun row => row.get? idColumn == some testId

def isActive (row : SheetRow) : Bool :=
  Text.upper (Text.strip ((row.get? "Execute").getD "N")) = "Y"

def descriptor (row : SheetRow) : CaseDescriptor :=
  let testId := (row.get? idColumn).getD ""
  { testId := testId
    testName := (filled? row "TestName").getD testId
    description := (row.get? "Description").getD ""
    ticketRef := (filled? row "JiraTicket").or (filled? row "TicketRef") }

/-- The keywords of a row, in the order of their columns and without blanks around them. -/
def keywords (row : SheetRow) (most : Nat) : List String :=
  (List.range most).filterMap fun n =>
    match Text.strip ((row.get? ("Keyword" ++ toString (n + 1))).getD "") with
    | "" => none
    | keyword => some keyword

def source (paths : WorkbookPaths) : DefinitionSource (Host ε) where
  listActive := do
    Host.logging .info "Getting active test cases from TestRunner"
    let rows ← sheetRows shelf paths.runner "TestCases"
    let cases := (rows.filter isActive).map descriptor
    Host.logging .info ("Found " ++ toString cases.length ++ " active test cases")
    return cases
  loadInput testId := do
    match ← findRow shelf paths.data "TestData" testId with
    | some row => return row.map fun (header, text) => (header, .text text)
    | none =>
      Host.logging .warning ("Test data not found for test ID: " ++ testId)
      return []
  loadKeywords testId := do
    match ← findRow shelf paths.flow "TestFlow" testId with
    | some row =>
      let found := keywords row paths.maxKeywords.toNat
      Host.logging .info ("Found " ++ toString found.length ++ " keywords for test ID: " ++ testId)
      return found.map .text
    | none =>
      Host.logging .warning ("Test flow not found for test ID: " ++ testId)
      return []

end Workbook

end KeywordSuite
