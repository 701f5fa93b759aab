import KeywordSuite.Definition.Workbook
import KeywordSuite.Proofs.Actions
import KeywordSuite.Proofs.Definition.Document
import KeywordSuite.Proofs.Entries

/-!
# What workbooks load

A sheet that shows records, one a row and one column for each part of them, is read as these records. A source
reads each of its sheets once, from a file or from what it kept of it, and answers from the rows it read.
-/

namespace KeywordSuite

/-! ## Reading aside -/

section

variable {σ α β : Type}

/-- From states with a property an action comes to a value, and keeps the property. -/
def Act.Yields (P : σ → Prop) (act : Act σ α) (a : α) : Prop := ∀ x, P x → ∃ x', act.run x = (.ok a, x') ∧ P x'

theorem Act.yields_pure {P : σ → Prop} (a : α) : Yields P (pure a) a := fun x here => ⟨x, rfl, here⟩

theorem Act.yields_modify {P : σ → Prop} {f : σ → σ} (kept : ∀ x, P x → P (f x)) : Yields P (modify f) ⟨⟩ :=
  fun x here => ⟨f x, rfl, kept x here⟩

theorem Act.Yields.bind {P : σ → Prop} {act : Act σ α} {f : α → Act σ β} {a : α} {b : β} (first : act.Yields P a)
    (rest : (f a).Yields P b) : Yields P (act >>= f) b := by
  intro x here
  obtain ⟨x₁, run, here⟩ := first x here
  obtain ⟨x₂, ran, here⟩ := rest x₁ here
  exact ⟨x₂, (Act.run_bind_of_ok run).trans ran, here⟩

end

namespace Workbook

/-! ## Sheets that show records -/

/-- A cell that shows a text. Where there is none the cell may be empty. -/
inductive Cell : String → Value → Prop
  | text (s : String) : Cell s (.text s)
  | empty : Cell "" .null

/-- The rows of a sheet with a header for each column, and a row for each record. -/
def IsSheet (columns : List String) (records : List (String → String)) (rows : List (List Value)) : Prop :=
  ∃ cells, rows = columns.map .text :: cells ∧
    List.Forall₂ (fun record row => List.Forall₂ (fun column cell => Cell (record column) cell) columns row) records cells

/-- A record as a row, in the order of the columns. -/
def shown (columns : List String) (record : String → String) : SheetRow := columns.map fun column => (column, record column)

section

variable {columns : List String} {record : String → String}

theorem Cell.cellTextOrFault {s : String} {v : Value} (h : Cell s v) : v.cellTextOrFault = .ok s := by
  cases h <;> rfl

theorem keys_shown : (shown columns record).keys = columns := by
  unfold shown Entries.keys
  rw [List.map_map]
  exact List.map_id columns

theorem get?_shown (column : String) :
    (shown columns record).get? column = if column ∈ columns then some (record column) else none := by
  induction columns with
  | nil => rfl
  | cons first rest ih =>
    have whole : shown (first :: rest) record = (first, record first) :: shown rest record := rfl
    rw [whole, Entries.get?_cons, ih]
    by_cases here : column = first
    · subst here
      simp
    · simp [here]

theorem get?_shown_of_mem {column : String} (h : column ∈ columns) :
    (shown columns record).get? column = some (record column) := by
  rw [get?_shown, if_pos h]

/-! ## Reading a sheet -/

theorem foldl_max_le {n : Nat} : ∀ {lengths : List Nat} {m : Nat}, (∀ k ∈ lengths, k ≤ n) → m ≤ n →
    lengths.foldl max m ≤ n
  | [], _, _, small => small
  | k :: rest, m, all, small => by
    have others : ∀ k' ∈ rest, k' ≤ n := fun k' member => all k' (List.mem_cons_of_mem k member)
    rw [List.foldl_cons]
    exact foldl_max_le others (Nat.max_le.2 ⟨small, all k List.mem_cons_self⟩)

/-- Rows that are all as long only lose the empty ones at the end. -/
theorem evenRows_of_even {n : Nat} {rows : List (List Value)} (even : ∀ row ∈ rows, row.length = n) :
    evenRows rows = rows.rdropWhile isEmptyRow := by
  have width : (rows.map List.length).foldl max 0 ≤ n := by
    refine foldl_max_le (fun k member => ?_) (Nat.zero_le n)
    obtain ⟨row, here, rfl⟩ := List.mem_map.1 member
    exact (even row here).le
  have kept : ∀ row ∈ rows.rdropWhile isEmptyRow, row ∈ rows := fun row held =>
    (List.rdropWhile_prefix _ _).subset held
  refine (List.map_congr_left fun row here => ?_).trans (List.map_id _)
  rw [even row (kept row here), Nat.sub_eq_zero_of_le width]
  exact List.append_nil row

/-- Rows that are all as long, none of them empty, are left as they are. -/
theorem evenRows_eq_self {n : Nat} {rows : List (List Value)} (even : ∀ row ∈ rows, row.length = n)
    (filled : ∀ row ∈ rows, isEmptyRow row = false) : evenRows rows = rows := by
  rw [evenRows_of_even even, List.rdropWhile_eq_self_iff]
  intro some
  rw [filled _ (List.getLast_mem some)]
  exact Bool.false_ne_true

theorem headers_texts (columns : List String) : headers (columns.map .text) = .ok columns := by
  suffices from_any : ∀ n, ((columns.map Value.text).zipIdx n).mapM (fun numbered =>
      if isEmptyCell numbered.1 then .ok ("Column" ++ toString numbered.2) else numbered.1.cellTextOrFault) =
        Except.ok (ε := Fault) columns from
    from_any 0
  induction columns with
  | nil => exact fun _ => rfl
  | cons column rest ih =>
    intro n
    rw [List.map_cons, List.zipIdx_cons, List.mapM_cons, ih (n + 1)]
    rfl

theorem rowTexts_cells (distinct : columns.Nodup) {row : List Value}
    (cells : List.Forall₂ (fun column cell => Cell (record column) cell) columns row) :
    rowTexts columns row = .ok (shown columns record) := by
  have texts : (columns.zip row).mapM (fun named => do return (named.1, ← named.2.cellTextOrFault)) =
      Except.ok (ε := Fault) (shown columns record) := by
    clear distinct
    induction cells with
    | nil => rfl
    | cons first _ ih =>
      rw [List.zip_cons_cons, List.mapM_cons, ih]
      dsimp only
      rw [first.cellTextOrFault]
      rfl
  have set : Entries.setAll [] (shown columns record) = shown columns record :=
    Entries.setAll_eq_append (by rw [keys_shown]; exact distinct)
  unfold rowTexts
  exact (congrArg (fun cells => cells >>= fun cells => pure (Entries.setAll [] cells)) texts).trans (congrArg Except.ok set)

variable {records : List (String → String)} {rows : List (List Value)}

theorem exists_of_forall₂ {α β : Type} {R : α → β → Prop} {l : List α} {l' : List β} (h : List.Forall₂ R l l') {b : β}
    (member : b ∈ l') : ∃ a ∈ l, R a b := by
  induction h with
  | nil => cases member
  | @cons a b' _ _ first _ ih =>
    rcases List.mem_cons.1 member with rfl | member
    · exact ⟨a, List.mem_cons_self, first⟩
    · obtain ⟨a', listed, related⟩ := ih member
      exact ⟨a', List.mem_cons_of_mem a listed, related⟩

theorem length_of_shows (shows : List.Forall₂ (fun record => List.Forall₂ (fun column cell => Cell (record column) cell) columns)
    records rows) : ∀ row ∈ columns.map .text :: rows, row.length = columns.length := by
  intro row here
  rcases List.mem_cons.1 here with rfl | here
  · exact List.length_map _
  · obtain ⟨record, -, row_shows⟩ := exists_of_forall₂ shows here
    exact row_shows.length_eq.symm

/-- A row that shows a record with an id is not empty. -/
theorem isEmptyRow_of_shows {record : String → String} {row : List Value} (named : idColumn ∈ columns)
    (id : record idColumn ≠ "") (shows : List.Forall₂ (fun column cell => Cell (record column) cell) columns row) :
    isEmptyRow row = false := by
  obtain ⟨cell, member, cell_shows⟩ := exists_of_forall₂ shows.flip named
  have full : isEmptyCell cell = false := by
    generalize record idColumn = s at id cell_shows
    cases cell_shows with
    | text => rfl
    | empty => exact absurd rfl id
  exact List.all_eq_false.2 ⟨cell, member, by simp [full]⟩

/-- A sheet that shows records with an id is read as these records. -/
theorem table_of_isSheet (sheet : IsSheet columns records rows) (distinct : columns.Nodup) (named : idColumn ∈ columns)
    (ids : ∀ record ∈ records, record idColumn ≠ "") : table (evenRows rows) = .ok (records.map (shown columns)) := by
  obtain ⟨cells, rfl, shows⟩ := sheet
  have even := length_of_shows shows
  have filled : ∀ row ∈ columns.map .text :: cells, isEmptyRow row = false := by
    intro row here
    rcases List.mem_cons.1 here with rfl | here
    · exact List.all_eq_false.2 ⟨.text idColumn, List.mem_map_of_mem named, nofun⟩
    · obtain ⟨record, listed, row_shows⟩ := exists_of_forall₂ shows here
      exact isEmptyRow_of_shows named (ids record listed) row_shows
  have texts : cells.mapM (rowTexts columns) = .ok (records.map (shown columns)) := by
    clear even filled ids
    induction shows with
    | nil => rfl
    | cons first _ ih =>
      rw [List.mapM_cons, rowTexts_cells distinct first, ih]
      rfl
  -- a row without an id would be left out, and every record has one
  have kept : (records.map (shown columns)).filter (fun row => (filled? row idColumn).isSome) =
      records.map (shown columns) := by
    refine List.filter_eq_self.2 fun row here => ?_
    obtain ⟨record, listed, rfl⟩ := List.mem_map.1 here
    have id := ids record listed
    unfold filled?
    rw [get?_shown_of_mem named]
    split
    · rename_i none
      cases none
    · rename_i same
      exact absurd (Option.some.inj same) id
    · rfl
  rw [evenRows_eq_self even filled]
  show (headers (columns.map .text) >>= _) = _
  rw [headers_texts]
  show (cells.mapM (rowTexts columns) >>= fun rows => _) = _
  rw [texts]
  exact congrArg Except.ok kept

end

/-! ## Reading each sheet once -/

section

variable {ε : Type} {shelf : Place ε SheetShelf} {path : FilePath} {sheet : String} {rows : List SheetRow} {h : Host ε}

/-- The rows of a sheet are to be had: they were read before, or will be read from the file. -/
def Offers (shelf : Place ε SheetShelf) (path : FilePath) (sheet : String) (rows : List SheetRow) (h : Host ε) : Prop :=
  (shelf.get h.outer).get? (path.text ++ "::" ++ sheet) = some rows ∨
    (shelf.get h.outer).get? (path.text ++ "::" ++ sheet) = none ∧
      ∃ book cells, ofFile h.files path = .ok book ∧ book.get? sheet = some cells ∧ table (evenRows cells) = .ok rows

/-- A host on which rows are kept under a key. -/
def keeping (shelf : Place ε SheetShelf) (key : String) (rows : List SheetRow) (h : Host ε) : Host ε :=
  { h with outer := shelf.set ((shelf.get h.outer).set key rows) h.outer }

/-- What is kept under a key takes nothing away, unless it is other rows under the key of the sheet. -/
theorem Offers.keep (lawful : shelf.Lawful) (offers : Offers shelf path sheet rows h) {key : String} {kept : List SheetRow}
    (own : path.text ++ "::" ++ sheet = key → kept = rows) :
    Offers shelf path sheet rows (keeping shelf key kept h) := by
  unfold Offers keeping at *
  dsimp only
  rw [lawful, Entries.get?_set]
  split
  · rename_i same
    exact .inl (congrArg some (own same))
  · exact offers

theorem yields_sheetRows {P : Host ε → Prop} (offers : ∀ h, P h → Offers shelf path sheet rows h)
    (logs : ∀ level message h, P h → P (h.note level message))
    (keeps : ∀ h, P h → P (keeping shelf (path.text ++ "::" ++ sheet) rows h)) :
    (sheetRows shelf path sheet).Yields P rows := by
  intro h here
  unfold sheetRows
  rw [Act.run_bind, Act.run_get]
  rcases offers h here with kept | ⟨fresh, book, cells, file, held, read⟩
  · simp only [kept]
    exact ⟨h, rfl, here⟩
  · obtain ⟨h₁, reads, here⟩ : ∃ h₁, (readSheet path sheet).run h = (.ok rows, h₁) ∧ P h₁ := by
      unfold readSheet
      rw [Act.run_bind, Act.run_get]
      simp only [file, held]
      split
      · refine ⟨h.note .warning ("Header row is empty in sheet: " ++ sheet), ?_, logs _ _ h here⟩
        exact (Act.run_ofExcept _ _).trans (by rw [read])
      · exact ⟨h, (Act.run_ofExcept _ _).trans (by rw [read]), here⟩
    simp only [fresh]
    exact ⟨_, Act.run_bind_of_ok reads, keeps h₁ here⟩

/-- The sheets that a source reads. -/
inductive Sheet
  | cases
  | flow
  | data

def Sheet.name : Sheet → String
  | .cases => "TestCases"
  | .flow => "TestFlow"
  | .data => "TestData"

def Sheet.workbook (paths : WorkbookPaths) : Sheet → FilePath
  | .cases => paths.runner
  | .flow => paths.flow
  | .data => paths.data

/-- Whatever the paths of their workbooks, different sheets are kept under different keys. -/
theorem Sheet.eq_of_key {p p' : String} {a b : Sheet} (same : p ++ "::" ++ a.name = p' ++ "::" ++ b.name) : a = b := by
  have ends := congrArg (fun s : String => s.toList.getLast?) same
  simp only [String.toList_append, List.getLast?_append] at ends
  cases a <;> cases b <;> first | rfl | simp [Sheet.name] at ends

/-- The rows of the sheets. -/
abbrev Tables := Sheet → List SheetRow

namespace Tables

variable (t : Tables)

def activeCases : List CaseDescriptor := ((t .cases).filter isActive).map descriptor

def row? (sheet : Sheet) (testId : String) : Option SheetRow := (t sheet).find? fun row => row.get? idColumn == some testId

def input (testId : String) : Entries Value :=
  match t.row? .data testId with
  | some row => row.map fun (header, text) => (header, .text text)
  | none => []

def keywords (most : Nat) (testId : String) : List Value :=
  match t.row? .flow testId with
  | some row => (Workbook.keywords row most).map .text
  | none => []

end Tables

variable {paths : WorkbookPaths} {t : Tables} {P : Host ε → Prop}

/-- The sheets of a source are to be had. -/
def Serves (shelf : Place ε SheetShelf) (paths : WorkbookPaths) (t : Tables) (h : Host ε) : Prop :=
  ∀ sheet : Sheet, Offers shelf (sheet.workbook paths) sheet.name (t sheet) h

/-- The key under which the rows of a sheet are kept. -/
def Sheet.key (paths : WorkbookPaths) (sheet : Sheet) : String := (sheet.workbook paths).text ++ "::" ++ sheet.name

theorem Serves.keep (lawful : shelf.Lawful) (serves : Serves shelf paths t h) (sheet : Sheet) :
    Serves shelf paths t (keeping shelf (sheet.key paths) (t sheet) h) := fun other =>
  (serves other).keep lawful fun same => by rw [Sheet.eq_of_key same]

/-- Where the sheets are to be had, whatever is logged and kept of them. -/
structure Upheld (shelf : Place ε SheetShelf) (paths : WorkbookPaths) (t : Tables) (P : Host ε → Prop) : Prop where
  serves : ∀ h, P h → Serves shelf paths t h
  logs : ∀ level message h, P h → P (h.note level message)
  keeps : ∀ sheet h, P h → P (keeping shelf (sheet.key paths) (t sheet) h)

namespace Upheld

variable (upheld : Upheld shelf paths t P)
include upheld

theorem yields_sheet (sheet : Sheet) : (sheetRows shelf (sheet.workbook paths) sheet.name).Yields P (t sheet) :=
  yields_sheetRows (fun h here => upheld.serves h here sheet) upheld.logs (upheld.keeps sheet)

theorem yields_logging (level : LogLevel) (message : String) : (Host.logging level message).Yields P () :=
  Act.yields_modify (upheld.logs level message)

theorem yields_findRow (sheet : Sheet) (testId : String) :
    (findRow shelf (sheet.workbook paths) sheet.name testId).Yields P (t.row? sheet testId) :=
  (upheld.yields_sheet sheet).bind (Act.yields_pure _)

theorem yields_listActive : (source shelf paths).listActive.Yields P t.activeCases :=
  (upheld.yields_logging _ _).bind <| (upheld.yields_sheet .cases).bind <|
    (upheld.yields_logging _ _).bind (Act.yields_pure _)

theorem yields_loadInput (testId : String) : ((source shelf paths).loadInput testId).Yields P (t.input testId) := by
  refine (upheld.yields_findRow .data testId).bind ?_
  unfold Tables.input
  cases t.row? .data testId with
  | some row => exact Act.yields_pure _
  | none => exact (upheld.yields_logging _ _).bind (Act.yields_pure _)

theorem yields_loadKeywords (testId : String) :
    ((source shelf paths).loadKeywords testId).Yields P (t.keywords paths.maxKeywords.toNat testId) := by
  refine (upheld.yields_findRow .flow testId).bind ?_
  unfold Tables.keywords
  cases t.row? .flow testId with
  | some row => exact (upheld.yields_logging _ _).bind (Act.yields_pure _)
  | none => exact (upheld.yields_logging _ _).bind (Act.yields_pure _)

end Upheld

end

end Workbook

end KeywordSuite
