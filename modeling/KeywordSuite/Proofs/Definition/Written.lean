import KeywordSuite.Proofs.Case.Lookups
import KeywordSuite.Proofs.Case.Sequence
import KeywordSuite.Proofs.Definition.Workbook
import KeywordSuite.Proofs.Text.Blank

/-!
# Suites written down

The test cases of a suite can be written down in a document, or in the sheets of workbooks. Read from either, the
same cases are active. The data of a case is the same but for its order, and its keywords are the same but for
blanks: those among them, which a workbook leaves out, and those around them, which it strips.
-/

namespace KeywordSuite

open Workbook (Sheet Tables idColumn shown)

/-- What is written down of a test case. -/
structure WrittenCase where
  testId : String
  testName : String
  description : String
  ticket : Option String
  active : Bool
  keywords : List String
  data : Entries String

/-- Test cases to write down: each has an id of its own, and data under the same keys. -/
structure WrittenSuite where
  cases : List WrittenCase
  dataKeys : List String
  ids : (cases.map WrittenCase.testId).Nodup
  named : ∀ c ∈ cases, c.testId ≠ ""
  tickets : ∀ c ∈ cases, c.ticket ≠ some ""
  distinct : dataKeys.Nodup
  apart : idColumn ∉ dataKeys
  full : ∀ c ∈ cases, c.data.keys.Perm dataKeys

/-- How it is written whether a test case is active. -/
def activeFlag (active : Bool) : String := if active then "Y" else "N"

/-- The texts of entries as values. -/
def Entries.texts (entries : Entries String) : Entries Value := entries.map fun (key, text) => (key, .text text)

/-- The entry of a document that a test case is read as. -/
def WrittenCase.entry (c : WrittenCase) : SuiteEntry where
  testId := c.testId
  testName := c.testName
  description := c.description
  ticketRef := c.ticket
  execute := c.active
  keywords := c.keywords
  data := c.data.texts

def WrittenSuite.document (suite : WrittenSuite) : SuiteDocument := suite.cases.map WrittenCase.entry

/-! ## In a document -/

/-- How a ticket is written: as its text. Where there is none, null is written or nothing. -/
inductive WritesTicket : Option String → Option Value → Prop
  | text (ticket : String) : WritesTicket (some ticket) (some (.text ticket))
  | null : WritesTicket none (some .null)
  | absent : WritesTicket none none

/-- Fields in which a test case is written down. -/
structure WrittenCase.IsFields (c : WrittenCase) (fields : Entries Value) : Prop where
  testId : fields.get? "test_id" = some (.text c.testId)
  testName : fields.get? "test_name" = some (.text c.testName)
  description : fields.get? "description" = some (.text c.description)
  ticket : WritesTicket c.ticket (fields.get? "ticket_ref")
  execute : fields.get? "execute" = some (.text (activeFlag c.active))
  keywords : fields.get? "keywords" = some (.list (c.keywords.map .text))
  data : fields.get? "data" = some (.dict c.data.texts)

/-- A value in which a suite is written down. -/
def WrittenSuite.IsDocument (suite : WrittenSuite) (v : Value) : Prop :=
  ∃ members items, v = .dict members ∧ Entries.get? members "tests" = some (.list items) ∧
    List.Forall₂ (fun item c => ∃ fields, item = .dict fields ∧ WrittenCase.IsFields c fields) items suite.cases

section

variable {suite : WrittenSuite} {c : WrittenCase} {fields : Entries Value}

theorem WrittenCase.IsFields.read (h : c.IsFields fields) (named : c.testId ≠ "") :
    SuiteEntry.read fields = .valid c.entry := by
  have id : field fields "test_id" none Read.nonEmptyText = .valid c.testId := by
    refine field_of_get? h.testId ?_
    simp [Read.nonEmptyText, Read.text, Checked.andThen, named]
  have ticket : field fields "ticket_ref" (some none) (Read.optional Read.text) = .valid c.ticket := by
    have written := h.ticket
    generalize held : fields.get? "ticket_ref" = v, c.ticket = ticket at written
    cases written with
    | text ticket => exact field_of_get? held rfl
    | null => exact field_of_get? held rfl
    | absent => exact field_of_absent held
  have execute : field fields "execute" (some true) SuiteEntry.readFlag = .valid c.active := by
    refine field_of_get? h.execute ?_
    cases c.active
    · cbv
    · cbv
  have keywords : field fields "keywords" (some []) (Read.list Read.text) = .valid c.keywords := by
    refine field_of_get? h.keywords (Read.each_valid ?_ 0)
    exact List.forall₂_map_left_iff.2 (List.forall₂_same.2 fun _ _ => rfl)
  have data : field fields "data" (some []) (Read.entries .valid) = .valid c.data.texts :=
    field_of_get? h.data (Read.eachEntry_valid _)
  unfold SuiteEntry.read
  rw [id, field_of_get? h.testName (a := c.testName) rfl, field_of_get? h.description (a := c.description) rfl, ticket,
    execute, keywords, data]
  rfl

theorem WrittenSuite.IsDocument.ofValue {v : Value} (h : suite.IsDocument v) :
    SuiteDocument.ofValue v = .ok suite.document := by
  obtain ⟨members, items, rfl, held, written⟩ := h
  have tests : SuiteDocument.ofEntries members = .valid suite.document := by
    refine field_of_get? held (Read.each_valid (List.forall₂_map_right_iff.2 ?_) 0)
    refine (List.forall₂_iff_get.2 ⟨written.length_eq, fun i hi hi' => ?_⟩)
    obtain ⟨fields, same, fits⟩ := (List.forall₂_iff_get.1 written).2 i hi hi'
    rw [same]
    exact fits.read (suite.named _ (List.get_mem ..))
  exact Checked.toExcept_eq_ok.2 tests

end

/-! ## In sheets -/

/-- How sheets are laid out: under which header tickets stand, and how many columns of keywords there are. -/
structure SheetLayout where
  tickets : String
  width : Nat

def keywordColumn (n : Nat) : String := "Keyword" ++ toString (n + 1)

/-- What a sheet shows of a test case under each of its headers. -/
def WrittenCase.row (layout : SheetLayout) (c : WrittenCase) : Sheet → Entries String
  | .cases => [(idColumn, c.testId), ("TestName", c.testName), ("Description", c.description),
    ("Execute", activeFlag c.active), (layout.tickets, c.ticket.getD "")]
  | .flow => (idColumn, c.testId) :: (List.range layout.width).map fun n => (keywordColumn n, c.keywords[n]?.getD "")
  | .data => (idColumn, c.testId) :: c.data

def WrittenCase.cell (layout : SheetLayout) (sheet : Sheet) (c : WrittenCase) (column : String) : String :=
  ((c.row layout sheet).get? column).getD ""

namespace WrittenSuite

variable (suite : WrittenSuite)

/-- The layout has a column of tickets, and columns for all keywords. -/
structure FitsIn (layout : SheetLayout) : Prop where
  tickets : layout.tickets = "JiraTicket" ∨ layout.tickets = "TicketRef"
  width : ∀ c ∈ suite.cases, c.keywords.length ≤ layout.width

def columns (layout : SheetLayout) : Sheet → List String
  | .cases => [idColumn, "TestName", "Description", "Execute", layout.tickets]
  | .flow => idColumn :: (List.range layout.width).map keywordColumn
  | .data => idColumn :: suite.dataKeys

/-- An order of the columns and rows of a sheet. Test cases are listed in the order of the suite. -/
structure Arranges (layout : SheetLayout) (sheet : Sheet) (columns : List String) (order : List WrittenCase) : Prop where
  columns : columns.Perm (suite.columns layout sheet)
  rows : order.Perm suite.cases
  listed : sheet = .cases → order = suite.cases

/-- Rows of cells in which a sheet of the suite is written down. -/
def IsSheet (layout : SheetLayout) (sheet : Sheet) (rows : List (List Value)) : Prop :=
  ∃ columns order, suite.Arranges layout sheet columns order ∧
    Workbook.IsSheet columns (order.map (WrittenCase.cell layout sheet)) rows

/-- The rows as which a sheet of the suite is read. -/
def IsTable (layout : SheetLayout) (sheet : Sheet) (rows : List SheetRow) : Prop :=
  ∃ columns order, suite.Arranges layout sheet columns order ∧
    rows = order.map fun c => shown columns (c.cell layout sheet)

end WrittenSuite

section

variable {suite : WrittenSuite} {layout : SheetLayout} {c : WrittenCase} {sheet : Sheet}

theorem keywordColumn_injective : Function.Injective keywordColumn := by
  intro n m same
  have digits : toString (n + 1) = toString (m + 1) := by
    have := congrArg String.toList same
    unfold keywordColumn at this
    rw [String.toList_append, String.toList_append] at this
    exact String.toList_inj.1 (List.append_cancel_left this)
  exact Nat.succ.inj (Nat.repr_inj.1 digits)

theorem idColumn_ne_keywordColumn (n : Nat) : idColumn ≠ keywordColumn n := by
  intro same
  have first := congrArg (fun s : String => s.toList.head?) same
  unfold keywordColumn at first
  rw [String.toList_append] at first
  simp [idColumn] at first

theorem WrittenSuite.FitsIn.nodup_columns (fits : suite.FitsIn layout) : ∀ sheet, (suite.columns layout sheet).Nodup
  | .cases => by
    have columns : suite.columns layout .cases = [idColumn, "TestName", "Description", "Execute", layout.tickets] := rfl
    rw [columns]
    rcases fits.tickets with tickets | tickets <;> (rw [tickets]; decide)
  | .flow => by
    refine List.nodup_cons.2 ⟨fun held => ?_, List.nodup_range.map keywordColumn_injective⟩
    obtain ⟨n, -, same⟩ := List.mem_map.1 held
    exact idColumn_ne_keywordColumn n same.symm
  | .data => List.nodup_cons.2 ⟨suite.apart, suite.distinct⟩

theorem idColumn_mem_columns : ∀ sheet, idColumn ∈ suite.columns layout sheet
  | .cases | .flow | .data => List.mem_cons_self

theorem keys_row (member : c ∈ suite.cases) : ∀ sheet, (c.row layout sheet).keys.Perm (suite.columns layout sheet)
  | .cases => .refl _
  | .flow => by
    have keys : (c.row layout .flow).keys = suite.columns layout .flow := by
      unfold WrittenCase.row Entries.keys WrittenSuite.columns
      rw [List.map_cons, List.map_map]
      rfl
    exact .of_eq keys
  | .data => (suite.full c member).cons idColumn

theorem cell_idColumn : c.cell layout sheet idColumn = c.testId := by
  cases sheet <;> rfl

theorem WrittenSuite.IsSheet.table (fits : suite.FitsIn layout) {rows : List (List Value)}
    (written : suite.IsSheet layout sheet rows) :
    ∃ table, Workbook.table (Workbook.evenRows rows) = .ok table ∧ suite.IsTable layout sheet table := by
  obtain ⟨columns, order, arranges, shows⟩ := written
  have read := Workbook.table_of_isSheet shows (arranges.columns.nodup_iff.2 (fits.nodup_columns sheet))
    (arranges.columns.mem_iff.2 (idColumn_mem_columns sheet)) fun record held => by
      obtain ⟨c, listed, rfl⟩ := List.mem_map.1 held
      rw [cell_idColumn]
      exact suite.named c (arranges.rows.mem_iff.1 listed)
  rw [List.map_map] at read
  exact ⟨_, read, columns, order, arranges, rfl⟩

theorem shown_perm {entries : Entries String} (distinct : entries.keys.Nodup) {columns : List String}
    (perm : columns.Perm entries.keys) : (shown columns fun column => (entries.get? column).getD "").Perm entries := by
  have same : shown entries.keys (fun column => (entries.get? column).getD "") = entries := by
    unfold shown
    unfold Entries.keys
    rw [List.map_map]
    refine (List.map_congr_left fun entry held => ?_).trans (List.map_id entries)
    exact Prod.ext rfl (congrArg (Option.getD · "") (Entries.get?_of_mem distinct held))
  exact (perm.map _).trans (.of_eq same)

end

/-! ## Looking test cases up -/

/-- Whatever the order, there is one element under a key. -/
theorem find?_eq_of_perm {α : Type} {key : α → String} {l l' : List α} (perm : l.Perm l') (distinct : (l'.map key).Nodup)
    (k : String) : l.find? (fun a => key a == k) = l'.find? fun a => key a == k := by
  cases found : l.find? fun a => key a == k with
  | none =>
    refine (List.find?_eq_none.2 fun a held => ?_).symm
    exact List.find?_eq_none.1 found a (perm.mem_iff.2 held)
  | some a =>
    have held : a ∈ l' := perm.mem_iff.1 (List.mem_of_find?_eq_some found)
    cases found' : l'.find? fun a => key a == k with
    | none => exact absurd (List.find?_some found) (List.find?_eq_none.1 found' a held)
    | some b =>
      have here : key a = k := eq_of_beq (List.find?_some found :)
      have same : key a = key b := here.trans (eq_of_beq (List.find?_some found' :)).symm
      rw [List.inj_on_of_nodup_map distinct held (List.mem_of_find?_eq_some found') same]

def WrittenSuite.ofId? (suite : WrittenSuite) (testId : String) : Option WrittenCase :=
  suite.cases.find? fun c => c.testId == testId

section

variable {suite : WrittenSuite} {layout : SheetLayout} {c : WrittenCase} {sheet : Sheet} {testId : String}

theorem WrittenSuite.mem_of_ofId? (found : suite.ofId? testId = some c) : c ∈ suite.cases ∧ c.testId = testId :=
  ⟨List.mem_of_find?_eq_some found, eq_of_beq (List.find?_some found :)⟩

theorem WrittenSuite.ofId?_document (suite : WrittenSuite) (testId : String) :
    suite.document.ofId? testId = (suite.ofId? testId).map WrittenCase.entry :=
  List.find?_map ..

theorem WrittenSuite.row?_table {t : Tables} (table : suite.IsTable layout sheet (t sheet)) :
    ∃ columns, columns.Perm (suite.columns layout sheet) ∧
      ∀ testId, t.row? sheet testId = (suite.ofId? testId).map fun c => shown columns (c.cell layout sheet) := by
  obtain ⟨columns, order, arranges, rows⟩ := table
  refine ⟨columns, arranges.columns, fun testId => ?_⟩
  have named : idColumn ∈ columns := arranges.columns.mem_iff.2 (idColumn_mem_columns sheet)
  have ids : (fun row : SheetRow => row.get? idColumn == some testId) ∘
      (fun c : WrittenCase => shown columns (c.cell layout sheet)) = fun c => c.testId == testId := by
    funext c
    rw [Function.comp_apply, Workbook.get?_shown_of_mem named, cell_idColumn]
    rfl
  unfold Tables.row?
  rw [rows, List.find?_map, ids, find?_eq_of_perm arranges.rows suite.ids]
  rfl

end

/-! ## Active cases -/

section

variable {row : SheetRow} {header text : String}

theorem filled?_of_get? (held : row.get? header = some text) :
    Workbook.filled? row header = if text = "" then none else some text := by
  unfold Workbook.filled?
  rw [held]
  split
  · rename_i none
    cases none
  · rename_i empty
    rw [if_pos (Option.some.inj empty)]
  · rename_i full same
    cases same
    exact (if_neg full).symm

theorem filled?_of_absent (absent : row.get? header = none) : Workbook.filled? row header = none := by
  unfold Workbook.filled?
  rw [absent]

variable {suite : WrittenSuite} {layout : SheetLayout} {c : WrittenCase} {columns : List String}
  (arranged : columns.Perm (suite.columns layout .cases))
include arranged

theorem get?_shown_cases (held : header ∈ suite.columns layout .cases) :
    (shown columns (c.cell layout .cases)).get? header = some (c.cell layout .cases header) :=
  Workbook.get?_shown_of_mem (arranged.mem_iff.2 held)

theorem isActive_shown : Workbook.isActive (shown columns (c.cell layout .cases)) = c.active := by
  unfold Workbook.isActive
  rw [get?_shown_cases arranged (by simp [WrittenSuite.columns])]
  have flag : c.cell layout .cases "Execute" = activeFlag c.active := rfl
  rw [Option.getD_some, flag]
  cases c.active <;> decide +kernel

theorem ticket_shown (fits : suite.FitsIn layout) (ticket : c.ticket ≠ some "") :
    (Workbook.filled? (shown columns (c.cell layout .cases)) "JiraTicket").or
      (Workbook.filled? (shown columns (c.cell layout .cases)) "TicketRef") = c.ticket := by
  have whole : (if c.ticket.getD "" = "" then none else some (c.ticket.getD "")) = c.ticket := by
    cases written : c.ticket with
    | none => rfl
    | some text => exact if_neg fun empty => ticket (written.trans (congrArg some empty))
  have tickets : layout.tickets ∈ suite.columns layout .cases := by simp [WrittenSuite.columns]
  have here := filled?_of_get? (get?_shown_cases (c := c) arranged tickets)
  have other : ∀ header, header ∉ suite.columns layout .cases →
      Workbook.filled? (shown columns (c.cell layout .cases)) header = none := fun header unlisted =>
    filled?_of_absent (by rw [Workbook.get?_shown, if_neg fun held => unlisted (arranged.mem_iff.1 held)])
  have cell : c.cell layout .cases layout.tickets = c.ticket.getD "" := by
    unfold WrittenCase.cell WrittenCase.row
    rcases fits.tickets with tickets | tickets <;> (rw [tickets]; rfl)
  rw [cell, whole] at here
  rcases fits.tickets with tickets | tickets
  · rw [tickets] at here
    rw [here, other "TicketRef" (by simp [WrittenSuite.columns, tickets, idColumn])]
    exact Option.or_none
  · rw [tickets] at here
    rw [here, other "JiraTicket" (by simp [WrittenSuite.columns, tickets, idColumn])]
    rfl

theorem descriptor_shown (fits : suite.FitsIn layout) (ticket : c.ticket ≠ some "") :
    Workbook.descriptor (shown columns (c.cell layout .cases)) = c.entry.descriptor := by
  have names : "TestName" ∈ suite.columns layout .cases := by simp [WrittenSuite.columns]
  have descriptions : "Description" ∈ suite.columns layout .cases := by simp [WrittenSuite.columns]
  have id := get?_shown_cases (c := c) arranged (idColumn_mem_columns .cases)
  have name := filled?_of_get? (get?_shown_cases (c := c) arranged names)
  have description := get?_shown_cases (c := c) arranged descriptions
  have named : c.cell layout .cases "TestName" = c.testName := rfl
  rw [cell_idColumn] at id
  unfold Workbook.descriptor SuiteEntry.descriptor
  dsimp only
  rw [id, name, named, description, ticket_shown arranged fits ticket]
  have either : (if c.testName = "" then none else some c.testName).getD c.testId =
      if c.testName = "" then c.testId else c.testName := by
    split <;> rfl
  exact congrArg (fun name => CaseDescriptor.mk c.testId name c.description c.ticket) either

omit arranged in
theorem activeCases_table {t : Tables} (table : suite.IsTable layout .cases (t .cases)) (fits : suite.FitsIn layout) :
    t.activeCases = suite.document.activeCases := by
  obtain ⟨columns, order, arranges, rows⟩ := table
  obtain rfl := arranges.listed rfl
  unfold Tables.activeCases SuiteDocument.activeCases WrittenSuite.document
  rw [rows, List.filter_map, List.filter_map, List.map_map, List.map_map]
  have active : (Workbook.isActive ∘ fun c : WrittenCase => shown columns (c.cell layout .cases)) =
      SuiteEntry.execute ∘ WrittenCase.entry := by
    funext c
    rw [Function.comp_apply, isActive_shown arranges.columns]
    rfl
  rw [active]
  refine List.map_congr_left fun c held => ?_
  exact descriptor_shown arranges.columns fits (suite.tickets c (List.mem_of_mem_filter held))

end

/-! ## Input data -/

def WrittenSuite.input (suite : WrittenSuite) (testId : String) : Entries Value :=
  match suite.ofId? testId with
  | some c => c.data.texts ++ [(idColumn, .text testId)]
  | none => []

section

variable {suite : WrittenSuite} {layout : SheetLayout} {c : WrittenCase}

theorem Entries.keys_texts (entries : Entries String) : entries.texts.keys = entries.keys := by
  unfold texts keys
  rw [List.map_map]
  rfl

/-- The texts of an entry are its data, which is text already, and its id, which is not among it. -/
theorem inputTexts_entry (member : c ∈ suite.cases) :
    c.entry.inputTexts = .ok (c.data.texts ++ [(idColumn, .text c.testId)]) := by
  have texts : ∀ entries : Entries String, entries.texts.mapM (fun entry => do
      return (entry.1, Value.text (← entry.2.cellTextOrFault))) = Except.ok (ε := Fault) entries.texts := by
    intro entries
    induction entries with
    | nil => rfl
    | cons entry rest ih =>
      have whole : Entries.texts (entry :: rest) = (entry.1, .text entry.2) :: Entries.texts rest := rfl
      rw [whole, List.mapM_cons, ih]
      rfl
  have unnamed : Entries.has c.data.texts "TestID" = false := by
    cases held : Entries.get? c.data.texts "TestID" with
    | none => unfold Entries.has; rw [held]; rfl
    | some v =>
      have key : idColumn ∈ c.data.texts.keys := List.mem_map.2 ⟨_, Entries.mem_of_get? held, rfl⟩
      rw [Entries.keys_texts] at key
      exact absurd ((suite.full c member).mem_iff.1 key) suite.apart
  unfold SuiteEntry.inputTexts
  have data : c.entry.data = c.data.texts := rfl
  rw [data, texts]
  show Except.ok (if Entries.has c.data.texts "TestID" then _ else _) = _
  rw [unnamed]
  rfl

/-- A row of data and an entry of a document are one mapping, the id of the test case among it. -/
theorem sameMapping_input {t : Tables} (table : suite.IsTable layout .data (t .data)) (testId : String) :
    Entries.SameMapping (t.input testId) (suite.input testId) := by
  obtain ⟨columns, arranged, looks⟩ := suite.row?_table table
  unfold Tables.input WrittenSuite.input
  rw [looks]
  cases found : suite.ofId? testId with
  | none => exact fun _ _ => rfl
  | some c =>
    obtain ⟨member, rfl⟩ := WrittenSuite.mem_of_ofId? found
    have keys : (c.row layout .data).keys.Perm _ := keys_row member .data
    have distinct : (c.row layout .data).keys.Nodup :=
      keys.nodup_iff.2 (List.nodup_cons.2 ⟨suite.apart, suite.distinct⟩)
    have shows : (shown columns (c.cell layout .data)).Perm ((idColumn, c.testId) :: c.data) :=
      shown_perm distinct (arranged.trans keys.symm)
    have texts : (shown columns (c.cell layout .data)).texts.Perm (c.data.texts ++ [(idColumn, .text c.testId)]) :=
      (shows.map _).trans (List.perm_append_singleton _ _).symm
    have apart : (shown columns (c.cell layout .data)).texts.keys.Nodup := by
      rw [Entries.keys_texts, Workbook.keys_shown]
      exact (arranged.trans keys.symm).nodup_iff.2 distinct
    exact Entries.sameMapping_of_perm apart texts

end

/-! ## Keywords -/

def WrittenSuite.keywords (suite : WrittenSuite) (testId : String) : List Value :=
  match suite.ofId? testId with
  | some c => SuiteDocument.keywordTexts c.entry
  | none => []

theorem keyword?_text (text : String) :
    (Value.text text).keyword? = if Text.strip text = "" then none else some (Text.strip text) := rfl

theorem keyword?_text_eq_none_iff (text : String) :
    (Value.text text).keyword? = none ↔ Text.isBlankText text = true := by
  rw [keyword?_text, ← Text.strip_eq_empty_iff]
  by_cases empty : Text.strip text = "" <;> simp [empty]

/-- A keyword names itself. -/
theorem keyword?_of_keyword? {v : Value} {keyword : String} (h : v.keyword? = some keyword) :
    (Value.text keyword).keyword? = some keyword := by
  obtain ⟨text, full, rfl⟩ : ∃ text, Text.strip text ≠ "" ∧ Text.strip text = keyword := by
    unfold Value.keyword? at h
    split at h
    · cases h
    · split at h
      · rename_i text _
        split at h
        · cases h
        · rename_i full
          exact ⟨text, full, Option.some.inj h⟩
      · cases h
  rw [keyword?_text, Text.strip_strip, if_neg full]

theorem said_of_legible {sequence : List Value} (legible : ∀ v ∈ sequence, v.Legible) :
    CaseDescriptor.said sequence = (keywordsOf sequence).map .ok := by
  unfold CaseDescriptor.said keywordsOf
  rw [List.map_filterMap]
  refine List.filterMap_congr fun v held => ?_
  rw [keywordText_of_legible (legible v held)]
  cases v.keyword? <;> rfl

theorem said_texts (texts : List String) :
    CaseDescriptor.said (texts.map .text) = (keywordsOf (texts.map .text)).map .ok := by
  refine said_of_legible fun v held => ?_
  obtain ⟨text, -, rfl⟩ := List.mem_map.1 held
  exact .inr ⟨text, rfl⟩

theorem keywordsOf_keywordsOf (sequence : List Value) :
    keywordsOf ((keywordsOf sequence).map .text) = keywordsOf sequence := by
  have again : (keywordsOf sequence).filterMap (fun keyword => (Value.text keyword).keyword?) = keywordsOf sequence := by
    refine (List.filterMap_congr fun keyword held => ?_).trans List.filterMap_some
    obtain ⟨v, -, names⟩ := List.mem_filterMap.1 held
    exact keyword?_of_keyword? names
  exact (List.filterMap_map ..).trans again

/-- The texts that are not blank are those that name a keyword. -/
theorem keywordsOf_filled (texts : List String) :
    keywordsOf ((texts.filter fun text => !Text.isBlankText text).map .text) = keywordsOf (texts.map .text) := by
  unfold keywordsOf
  rw [List.filterMap_map, List.filterMap_map, List.filterMap_filter]
  refine List.filterMap_congr fun text _ => ?_
  cases blank : Text.isBlankText text with
  | false => rfl
  | true => exact ((keyword?_text_eq_none_iff text).2 blank).symm

theorem keywordsOf_eq_nil_iff (texts : List String) :
    keywordsOf (texts.map .text) = [] ↔ (texts.filter fun text => !Text.isBlankText text) = [] := by
  unfold keywordsOf
  rw [List.filterMap_map, List.filterMap_eq_nil_iff, List.filter_eq_nil_iff]
  refine forall₂_congr fun text _ => ?_
  rw [Function.comp_apply, keyword?_text_eq_none_iff]
  simp

/-- What is found in the places up to a bound is a list followed by blanks. -/
theorem filterMap_range_getD {β : Type} {f : String → Option β} (blank : f "" = none) : ∀ (texts : List String) {n : Nat},
    texts.length ≤ n → (List.range n).filterMap (fun i => f (texts[i]?.getD "")) = texts.filterMap f
  | [], n, _ => by
    refine List.filterMap_eq_nil_iff.2 fun i _ => ?_
    exact blank
  | text :: rest, 0, short => absurd short (Nat.not_succ_le_zero _)
  | text :: rest, n + 1, short => by
    have others := filterMap_range_getD blank rest (Nat.le_of_succ_le_succ short)
    rw [List.range_succ_eq_map, List.filterMap_cons, List.filterMap_map, List.filterMap_cons]
    exact congrArg (fun found => match f text with | none => found | some b => b :: found) others

section

variable {suite : WrittenSuite} {layout : SheetLayout} {c : WrittenCase} {columns : List String} {most : Nat}

theorem get?_shown_flow (fits : suite.FitsIn layout) (member : c ∈ suite.cases)
    (arranged : columns.Perm (suite.columns layout .flow)) (n : Nat) :
    ((shown columns (c.cell layout .flow)).get? (keywordColumn n)).getD "" = c.keywords[n]?.getD "" := by
  rw [Workbook.get?_shown]
  by_cases within : n < layout.width
  · have row : (keywordColumn n, c.keywords[n]?.getD "") ∈ c.row layout .flow :=
      List.mem_cons_of_mem _ (List.mem_map.2 ⟨n, List.mem_range.2 within, rfl⟩)
    have keys : (c.row layout .flow).keys.Perm _ := keys_row member .flow
    have held : keywordColumn n ∈ columns :=
      arranged.mem_iff.2 (keys.mem_iff.1 (List.mem_map.2 ⟨_, row, rfl⟩))
    rw [if_pos held]
    have cell := Entries.get?_of_mem (keys.nodup_iff.2 (fits.nodup_columns .flow)) row
    unfold WrittenCase.cell
    rw [cell, Option.getD_some, Option.getD_some]
  · have unlisted : keywordColumn n ∉ columns := fun held => by
      rcases List.mem_cons.1 (arranged.mem_iff.1 held) with same | held
      · exact idColumn_ne_keywordColumn n same.symm
      · obtain ⟨m, small, same⟩ := List.mem_map.1 held
        exact within (keywordColumn_injective same ▸ List.mem_range.1 small)
    have past : c.keywords[n]? = none :=
      List.getElem?_eq_none (Nat.le_trans (fits.width c member) (Nat.not_lt.1 within))
    rw [if_neg unlisted, past]

theorem keywords_shown (fits : suite.FitsIn layout) (member : c ∈ suite.cases)
    (arranged : columns.Perm (suite.columns layout .flow)) (few : c.keywords.length ≤ most) :
    Workbook.keywords (shown columns (c.cell layout .flow)) most = keywordsOf (c.keywords.map .text) := by
  have found : Workbook.keywords (shown columns (c.cell layout .flow)) most =
      (List.range most).filterMap fun n => (Value.text (c.keywords[n]?.getD "")).keyword? := by
    unfold Workbook.keywords
    refine List.filterMap_congr fun n _ => ?_
    have cell := get?_shown_flow fits member arranged n
    unfold keywordColumn at cell
    rw [cell, keyword?_text]
    split
    · rename_i empty
      exact (if_pos empty).symm
    · rename_i full
      exact (if_neg full).symm
  rw [found, filterMap_range_getD (f := fun text => (Value.text text).keyword?) rfl c.keywords few]
  unfold keywordsOf
  rw [List.filterMap_map]
  rfl

/-- A row of keywords and an entry of a document say the same: the row has no blanks in it, and none around a keyword. -/
theorem sameSequence_keywords {t : Tables} (table : suite.IsTable layout .flow (t .flow)) (fits : suite.FitsIn layout)
    (few : ∀ c ∈ suite.cases, c.keywords.length ≤ most) (testId : String) :
    CaseDescriptor.SameSequence (t.keywords most testId) (suite.keywords testId) := by
  obtain ⟨columns, arranged, looks⟩ := suite.row?_table table
  unfold Tables.keywords WrittenSuite.keywords
  rw [looks]
  cases found : suite.ofId? testId with
  | none => exact ⟨rfl, Iff.rfl⟩
  | some c =>
    obtain ⟨member, -⟩ := WrittenSuite.mem_of_ofId? found
    dsimp only [Option.map_some]
    rw [keywords_shown fits member arranged (few c member)]
    refine ⟨?_, ?_⟩
    · rw [said_texts, keywordsOf_keywordsOf]
      exact ((said_texts _).trans (congrArg (List.map _) (keywordsOf_filled c.keywords))).symm
    · rw [List.map_eq_nil_iff, keywordsOf_eq_nil_iff]
      exact List.map_eq_nil_iff.symm

end

end KeywordSuite
