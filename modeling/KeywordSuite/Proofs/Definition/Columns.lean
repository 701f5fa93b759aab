import KeywordSuite.Proofs.Definition.Loading
import KeywordSuite.Proofs.Definition.Workbook
import KeywordSuite.Proofs.Keyword.Lookups
import Mathlib.Data.List.DropRight

/-!
# Columns in another order

A row is read as a mapping from the headers to its texts, so the order of the columns is nothing to what a source
of workbooks answers: it lists the same cases, and finds the same keywords and the same input for every id. Keywords
follow the numbers in their headers.
-/

namespace KeywordSuite

namespace Workbook

/-! ## Outcomes -/

/-- Outcomes with related values, the same fault, or faults for want of the texts of cells. -/
inductive Tallies {α β : Type} (V : α → β → Prop) : Except Fault α → Except Fault β → Prop
  | ok {a : α} {b : β} : V a b → Tallies V (.ok a) (.ok b)
  | fault (fault : Fault) : Tallies V (.error fault) (.error fault)
  | textless (t t' : TextFault) : Tallies V (.error (.ofTextFault t)) (.error (.ofTextFault t'))

section

variable {α β γ δ : Type} {V : α → β → Prop} {W : γ → δ → Prop} {x : Except Fault α} {y : Except Fault β}

theorem tallies_refl {R : α → α → Prop} (refl : ∀ a, R a a) (x : Except Fault α) : Tallies R x x := by
  cases x with
  | ok a => exact .ok (refl a)
  | error fault => exact .fault fault

theorem Tallies.bind {f : α → Except Fault γ} {g : β → Except Fault δ} (h : Tallies V x y)
    (next : ∀ a b, V a b → Tallies W (f a) (g b)) : Tallies W (x >>= f) (y >>= g) := by
  cases h with
  | ok related => exact next _ _ related
  | fault fault => exact .fault fault
  | textless t t' => exact .textless t t'

theorem Tallies.trans {U : α → δ → Prop} {W : β → δ → Prop} {z : Except Fault δ}
    (through : ∀ a b d, V a b → W b d → U a d) (h : Tallies V x y) (g : Tallies W y z) : Tallies U x z := by
  cases h with
  | ok first =>
    cases g with
    | ok second => exact .ok (through _ _ _ first second)
  | fault fault =>
    cases g with
    | fault => exact .fault _
    | textless t t' => exact .textless t t'
  | textless t t' =>
    generalize same : Fault.ofTextFault t' = fault at g
    cases g with
    | fault => exact same ▸ .textless t t'
    | textless _ t' => exact .textless t t'

theorem Tallies.known (h : Tallies V x y) : Tallies (fun a b => x = .ok a ∧ V a b) x y := by
  cases h with
  | ok related => exact .ok ⟨rfl, related⟩
  | fault fault => exact .fault fault
  | textless t t' => exact .textless t t'

theorem tallies_mapM {f : α → Except Fault γ} {g : β → Except Fault δ} (each : ∀ a b, V a b → Tallies W (f a) (g b)) :
    ∀ {l : List α} {l' : List β}, List.Forall₂ V l l' → Tallies (List.Forall₂ W) (l.mapM f) (l'.mapM g)
  | _, _, .nil => .ok .nil
  | _, _, .cons first rest => by
    rw [List.mapM_cons, List.mapM_cons]
    refine (each _ _ first).bind fun c d related => ?_
    refine (tallies_mapM each rest).bind fun cs ds others => ?_
    exact .ok (.cons related others)

end

/-! ## Cells and rows -/

def readCell (named : String × Value) : Except Fault (String × String) := do
  return (named.1, ← named.2.cellTextOrFault)

theorem readCell_cases (named : String × Value) :
    (∃ text, readCell named = .ok (named.1, text)) ∨ ∃ t, readCell named = .error (.ofTextFault t) := by
  obtain ⟨header, cell⟩ := named
  unfold readCell Value.cellTextOrFault
  cases cell.cellText with
  | ok text => exact .inl ⟨text, rfl⟩
  | error t => exact .inr ⟨t, rfl⟩

/-- Cells are read to the same texts in whatever order, if all of them can be read. -/
theorem tallies_cells {l l' : List (String × Value)} (perm : l.Perm l') :
    Tallies List.Perm (l.mapM readCell) (l'.mapM readCell) := by
  induction perm with
  | nil => exact .ok .nil
  | cons a _ ih =>
    rw [List.mapM_cons, List.mapM_cons]
    refine (tallies_refl (R := Eq) (fun _ => rfl) (readCell a)).bind fun text _ same => ?_
    subst same
    exact ih.bind fun _ _ others => .ok (others.cons text)
  | swap a b l =>
    simp only [List.mapM_cons]
    obtain ⟨first, ha⟩ | ⟨t, ha⟩ := readCell_cases a <;> obtain ⟨second, hb⟩ | ⟨t', hb⟩ := readCell_cases b <;>
      rw [ha, hb]
    · cases l.mapM readCell with
      | ok texts => exact .ok (.swap (a.1, first) (b.1, second) texts)
      | error fault => exact .fault fault
    · exact .fault _
    · exact .fault _
    · exact .textless t' t
  | trans _ _ first second => exact first.trans (fun _ _ _ one two => one.trans two) second

theorem keys_of_cells {l : List (String × Value)} {texts : Entries String} (read : l.mapM readCell = .ok texts) :
    texts.keys = l.map Prod.fst := by
  have cells := mapM_eq_ok_iff.1 read
  clear read
  induction cells with
  | nil => rfl
  | @cons named _ _ _ first _ ih =>
    obtain ⟨text, here⟩ | ⟨t, here⟩ := readCell_cases named
    · rw [here] at first
      cases first
      exact congrArg (named.1 :: ·) ih
    · rw [here] at first
      cases first

/-- Rows that are one mapping. -/
def RowAlike {α : Type} (row row' : Entries α) : Prop := row.Perm row' ∧ ∀ key, row.get? key = row'.get? key

theorem RowAlike.refl {α : Type} (row : Entries α) : RowAlike row row := ⟨.refl _, fun _ => rfl⟩

theorem tallies_rowTexts {columns columns' : List String} {row row' : List Value} (distinct : columns.Nodup)
    (width : row.length = columns.length) (perm : (columns.zip row).Perm (columns'.zip row')) :
    Tallies RowAlike (rowTexts columns row) (rowTexts columns' row') := by
  have reads : ∀ columns row, rowTexts columns row =
      (columns.zip row).mapM readCell >>= fun cells => pure (Entries.setAll [] cells) := fun _ _ => rfl
  have names : (columns.zip row).map Prod.fst = columns := List.map_fst_zip width.ge
  have whole : ∀ {texts : Entries String}, texts.keys.Nodup → Entries.setAll [] texts = texts := fun apart =>
    Entries.setAll_eq_append (by simpa [Entries.keys] using apart)
  rw [reads, reads]
  refine (tallies_cells perm).known.bind fun texts texts' alike => ?_
  obtain ⟨read, same⟩ := alike
  have apart : Entries.keys texts |>.Nodup := by rwa [keys_of_cells read, names]
  have apart' : Entries.keys texts' |>.Nodup := (same.map Prod.fst).nodup_iff.1 apart
  refine .ok ⟨?_, Entries.sameMapping_of_perm apart same []⟩
  rw [whole apart, whole apart']
  exact same

section

variable {row row' : SheetRow}

theorem filled?_alike (h : RowAlike row row') (header : String) : filled? row header = filled? row' header := by
  rw [filled?, filled?, h.2]

theorem isActive_alike (h : RowAlike row row') : isActive row = isActive row' := by rw [isActive, isActive, h.2]

theorem descriptor_alike (h : RowAlike row row') : descriptor row = descriptor row' := by
  simp only [descriptor, filled?_alike h, h.2]

theorem keywords_alike (h : RowAlike row row') (most : Nat) : keywords row most = keywords row' most := by
  simp only [keywords, h.2]

theorem texts_alike (h : RowAlike row row') :
    RowAlike (row.map fun (header, text) => (header, Value.text text))
      (row'.map fun (header, text) => (header, .text text)) := by
  have found : ∀ (row : SheetRow) key,
      Entries.get? (row.map fun (header, text) => (header, Value.text text)) key = (row.get? key).map .text := by
    intro row key
    induction row with
    | nil => rfl
    | cons named rest ih =>
      obtain ⟨header, text⟩ := named
      rw [List.map_cons, Entries.get?_cons, Entries.get?_cons, ih]
      split <;> rfl
  exact ⟨h.1.map _, fun key => by rw [found, found, h.2]⟩

end

/-! ## Turned rows -/

/-- The elements at some places, in the order of the places. -/
def turned {α : Type} (order : List Nat) (row : List α) : List α := order.filterMap fun n => row[n]?

section

variable {α β : Type} {order : List Nat}

theorem turned_map (f : α → β) (row : List α) : turned order (row.map f) = (turned order row).map f := by
  simp [turned, List.map_filterMap]

theorem turned_zip {as : List α} {bs : List β} (same : as.length = bs.length) :
    turned order (as.zip bs) = (turned order as).zip (turned order bs) := by
  induction order with
  | nil => rfl
  | cons n order ih =>
    unfold turned at ih ⊢
    by_cases within : n < as.length
    · have there : n < bs.length := same ▸ within
      simp [within, there, ih]
    · have beyond : ¬ n < bs.length := same ▸ within
      simp [within, beyond, ih]

theorem turned_range : ∀ row : List α, turned (List.range row.length) row = row
  | [] => rfl
  | a :: row => by
    have rest := turned_range row
    unfold turned at rest ⊢
    rw [List.length_cons, List.range_succ_eq_map, List.filterMap_cons, List.filterMap_map]
    simpa [Function.comp_def] using rest

theorem turned_perm {row : List α} (perm : order.Perm (List.range row.length)) : (turned order row).Perm row := by
  have whole := perm.filterMap fun n => row[n]?
  have ranged := turned_range row
  unfold turned at ranged ⊢
  rwa [ranged] at whole

theorem isEmptyRow_turned {row : List Value} (perm : order.Perm (List.range row.length)) :
    isEmptyRow (turned order row) = isEmptyRow row := by
  rw [Bool.eq_iff_iff]
  simp only [isEmptyRow, List.all_eq_true]
  have mem := fun cell => (turned_perm perm).mem_iff (a := cell)
  simp [mem]

end

/-! ## Sheets -/

/-- A header row that tells its columns apart by texts of its own. -/
structure IsHeader (columns : List String) (header : List Value) : Prop where
  filled : ∀ cell ∈ header, isEmptyCell cell = false
  texts : header.map Value.cellTextOrFault = columns.map .ok
  distinct : columns.Nodup

/-- A sheet, or the same one with its columns in another order. -/
inductive Rearranged : List (List Value) → List (List Value) → Prop
  | same (rows : List (List Value)) : Rearranged rows rows
  | turned {columns : List String} {header : List Value} {body : List (List Value)} {order : List Nat} :
      IsHeader columns header → (∀ row ∈ body, row.length = header.length) → order.Perm (List.range header.length) →
      Rearranged (header :: body) ((header :: body).map (turned order))

section

variable {columns : List String} {header : List Value} {order : List Nat}

theorem IsHeader.length (h : IsHeader columns header) : header.length = columns.length := by
  simpa using congrArg List.length h.texts

theorem IsHeader.headers (h : IsHeader columns header) : headers header = .ok columns := by
  obtain ⟨filled, texts, -⟩ := h
  suffices from_any : ∀ n, (header.zipIdx n).mapM (fun numbered =>
      if isEmptyCell numbered.1 then .ok ("Column" ++ toString numbered.2) else numbered.1.cellTextOrFault) =
        Except.ok (ε := Fault) columns from
    from_any 0
  induction header generalizing columns with
  | nil =>
    cases columns with
    | nil => exact fun _ => rfl
    | cons => cases texts
  | cons cell header ih =>
    cases columns with
    | nil => cases texts
    | cons column columns =>
      obtain ⟨own, others⟩ := List.forall_mem_cons.1 filled
      obtain ⟨first, rest⟩ := List.cons.inj texts
      intro n
      rw [List.zipIdx_cons, List.mapM_cons, ih others rest (n + 1)]
      simp only [own, first]
      rfl

theorem IsHeader.turned (h : IsHeader columns header) (perm : order.Perm (List.range header.length)) :
    IsHeader (turned order columns) (Workbook.turned order header) where
  filled cell held := h.filled cell ((turned_perm perm).mem_iff.1 held)
  texts := by rw [← turned_map, h.texts, turned_map]
  distinct := (turned_perm (h.length ▸ perm)).nodup_iff.2 h.distinct

theorem rdropWhile_map {α β : Type} {f : α → β} {p : α → Bool} {q : β → Bool} : ∀ {l : List α},
    (∀ a ∈ l, q (f a) = p a) → (l.map f).rdropWhile q = (l.rdropWhile p).map f := by
  intro l
  induction l using List.reverseRecOn with
  | nil => exact fun _ => rfl
  | append_singleton l a ih =>
    intro same
    have last : q (f a) = p a := same a (by simp)
    have others := ih fun b held => same b (List.mem_append_left _ held)
    rw [List.map_append, List.map_singleton]
    by_cases empty : p a = true
    · rw [List.rdropWhile_concat_pos _ _ _ (last.trans empty), List.rdropWhile_concat_pos _ _ _ empty, others]
    · rw [List.rdropWhile_concat_neg _ _ _ (last ▸ empty), List.rdropWhile_concat_neg _ _ _ empty]
      simp

theorem forall₂_filter {α : Type} {R : α → α → Prop} {p : α → Bool} (same : ∀ a b, R a b → p a = p b) :
    ∀ {l l' : List α}, List.Forall₂ R l l' → List.Forall₂ R (l.filter p) (l'.filter p)
  | _, _, .nil => .nil
  | a :: _, b :: _, .cons first rest => by
    have others := forall₂_filter same rest
    by_cases kept : p a = true
    · rw [List.filter_cons_of_pos kept, List.filter_cons_of_pos (same a b first ▸ kept)]
      exact .cons first others
    · rw [List.filter_cons_of_neg kept, List.filter_cons_of_neg (same a b first ▸ kept)]
      exact others

theorem tallies_table {rows rows' : List (List Value)} (h : Rearranged rows rows') :
    Tallies (List.Forall₂ RowAlike) (table (evenRows rows)) (table (evenRows rows')) := by
  cases h with
  | same => exact tallies_refl (fun rows => List.forall₂_same.2 fun row _ => .refl row) _
  | @turned columns header body order named width perm =>
    have even : ∀ row ∈ header :: body, row.length = header.length := List.forall_mem_cons.2 ⟨rfl, width⟩
    have even' : ∀ row ∈ (header :: body).map (turned order), row.length = header.length := by
      intro row' held'
      obtain ⟨row, held, rfl⟩ := List.mem_map.1 held'
      rw [(turned_perm ((even row held).symm ▸ perm)).length_eq, even row held]
    rw [evenRows_of_even even, evenRows_of_even even',
      rdropWhile_map fun row held => isEmptyRow_turned ((even row held).symm ▸ perm)]
    -- both sheets lose as many rows at the end, since a row stays empty in any order
    obtain ⟨dropped, whole⟩ := List.rdropWhile_prefix isEmptyRow (header :: body)
    generalize (header :: body).rdropWhile isEmptyRow = kept at whole
    cases kept with
    | nil => exact .ok .nil
    | cons first kept =>
      obtain ⟨rfl, rfl⟩ := List.cons.inj whole
      have width' : ∀ row ∈ kept, row.length = first.length := fun row held => width row (List.mem_append_left _ held)
      have texts : Tallies (List.Forall₂ RowAlike) (kept.mapM (rowTexts columns))
          ((kept.map (turned order)).mapM (rowTexts (turned order columns))) := by
        have each : List.Forall₂ (fun row row' => row.length = columns.length ∧ row' = turned order row) kept
            (kept.map (turned order)) :=
          List.forall₂_map_right_iff.2 (List.forall₂_same.2 fun row held => ⟨(width' row held).trans named.length, rfl⟩)
        refine tallies_mapM (fun row row' same => ?_) each
        obtain ⟨wide, rfl⟩ := same
        refine tallies_rowTexts named.distinct wide ?_
        rw [← turned_zip wide.symm]
        refine (turned_perm ?_).symm
        rwa [List.length_zip, wide, Nat.min_self, ← named.length]
      rw [List.map_cons]
      unfold table
      dsimp only
      rw [named.headers, (named.turned perm).headers]
      exact texts.bind fun rows rows' alike => .ok (forall₂_filter (fun _ _ same => by rw [filled?_alike same]) alike)

end

/-! ## Two hosts -/

/-- What two files have of a sheet: they cannot be read for the same reason, or have the same but for the order of
its columns. -/
inductive SameSheet (name : String) : Except Fault Workbook → Except Fault Workbook → Prop
  | missing (fault : Fault) : SameSheet name (.error fault) (.error fault)
  | read {book book' : Workbook} :
      Option.Rel Rearranged (book.get? name) (book'.get? name) → SameSheet name (.ok book) (.ok book')

section

variable {ε : Type} (shelf : Place ε SheetShelf) (paths : WorkbookPaths)

/-- The sheets of a source are in the files of both. -/
def SameBooks (f f' : Files) : Prop :=
  ∀ sheet : Sheet, SameSheet sheet.name (ofFile f (sheet.workbook paths)) (ofFile f' (sheet.workbook paths))

/-- Hosts whose sheets, in the files and as far as they were read, differ in the order of the columns. -/
structure Beside (h h' : Host ε) : Prop where
  books : SameBooks paths h.files h'.files
  kept : ∀ sheet : Sheet, Option.Rel (List.Forall₂ RowAlike) ((shelf.get h.outer).get? (sheet.key paths))
    ((shelf.get h'.outer).get? (sheet.key paths))

/-- From two such hosts actions come to outcomes that tally, and to two such hosts. -/
def Alongside {α β : Type} (V : α → β → Prop) (p : Act (Host ε) α) (q : Act (Host ε) β) : Prop :=
  ∀ h h', Beside shelf paths h h' → Tallies V (p.run h).1 (q.run h').1 ∧ Beside shelf paths (p.run h).2 (q.run h').2

end

section

variable {ε : Type} {shelf : Place ε SheetShelf} {paths : WorkbookPaths}

section

variable {α β γ δ : Type} {V : α → β → Prop} {W : γ → δ → Prop}

theorem alongside_pure {a : α} {b : β} (related : V a b) : Alongside shelf paths V (pure a) (pure b) :=
  fun _ _ beside => ⟨.ok related, beside⟩

theorem Alongside.bind {p : Act (Host ε) α} {q : Act (Host ε) β} {f : α → Act (Host ε) γ} {g : β → Act (Host ε) δ}
    (first : Alongside shelf paths V p q) (rest : ∀ a b, V a b → Alongside shelf paths W (f a) (g b)) :
    Alongside shelf paths W (p >>= f) (q >>= g) := by
  intro h h' beside
  obtain ⟨tallies, after⟩ := first h h' beside
  rw [Act.run_bind, Act.run_bind]
  generalize p.run h = x at tallies after
  generalize q.run h' = y at tallies after
  obtain ⟨r, k⟩ := x
  obtain ⟨r', k'⟩ := y
  cases tallies with
  | ok related => exact rest _ _ related k k' after
  | fault fault => exact ⟨.fault fault, after⟩
  | textless t t' => exact ⟨.textless t t', after⟩

end

theorem alongside_logging (level : LogLevel) (message : String) :
    Alongside shelf paths Eq (Host.logging level message) (Host.logging level message) :=
  fun _ _ beside => ⟨.ok rfl, beside.books, beside.kept⟩

/-! ## Sheets side by side -/

theorem run_readSheet {h : Host ε} {path : FilePath} {name : String} {book : Workbook} {rows : List (List Value)}
    (file : ofFile h.files path = .ok book) (held : book.get? name = some rows) :
    ∃ log, (readSheet path name).run h = (table (evenRows rows), { h with log := log }) := by
  unfold readSheet
  rw [Act.run_bind, Act.run_get]
  simp only [file, held]
  split
  · exact ⟨_, Act.run_ofExcept _ (h.note .warning ("Header row is empty in sheet: " ++ name))⟩
  · exact ⟨h.log, Act.run_ofExcept _ h⟩

theorem alongside_readSheet (sheet : Sheet) :
    Alongside shelf paths (List.Forall₂ RowAlike) (readSheet (sheet.workbook paths) sheet.name)
      (readSheet (sheet.workbook paths) sheet.name) := by
  intro h h' beside
  have same := beside.books sheet
  generalize file : ofFile h.files (sheet.workbook paths) = book at same
  generalize file' : ofFile h'.files (sheet.workbook paths) = book' at same
  cases same with
  | missing fault =>
    unfold readSheet
    rw [Act.run_bind, Act.run_bind, Act.run_get, Act.run_get]
    simp only [file, file']
    exact ⟨.fault _, beside⟩
  | @read book book' rearranged =>
    generalize held : book.get? sheet.name = rows at rearranged
    generalize held' : book'.get? sheet.name = rows' at rearranged
    cases rearranged with
    | none =>
      unfold readSheet
      rw [Act.run_bind, Act.run_bind, Act.run_get, Act.run_get]
      simp only [file, file', held, held']
      exact ⟨.ok .nil, beside.books, beside.kept⟩
    | some rearranged =>
      obtain ⟨log, run⟩ := run_readSheet file held
      obtain ⟨log', run'⟩ := run_readSheet file' held'
      rw [run, run']
      exact ⟨tallies_table rearranged, beside.books, beside.kept⟩

theorem Beside.keep (lawful : shelf.Lawful) {h h' : Host ε} (beside : Beside shelf paths h h') (sheet : Sheet)
    {rows rows' : List SheetRow} (alike : List.Forall₂ RowAlike rows rows') :
    Beside shelf paths (keeping shelf (sheet.key paths) rows h) (keeping shelf (sheet.key paths) rows' h') := by
  refine ⟨beside.books, fun other => ?_⟩
  unfold keeping
  dsimp only
  rw [lawful, lawful, Entries.get?_set, Entries.get?_set]
  split
  · exact .some alike
  · exact beside.kept other

theorem alongside_sheetRows (lawful : shelf.Lawful) (sheet : Sheet) :
    Alongside shelf paths (List.Forall₂ RowAlike) (sheetRows shelf (sheet.workbook paths) sheet.name)
      (sheetRows shelf (sheet.workbook paths) sheet.name) := by
  intro h h' beside
  have known := beside.kept sheet
  unfold Sheet.key at known
  unfold sheetRows
  rw [Act.run_bind, Act.run_bind, Act.run_get, Act.run_get]
  dsimp only
  generalize (shelf.get h.outer).get? ((sheet.workbook paths).text ++ "::" ++ sheet.name) = kept at known
  generalize (shelf.get h'.outer).get? ((sheet.workbook paths).text ++ "::" ++ sheet.name) = kept' at known
  cases known with
  | some alike => exact ⟨.ok alike, beside⟩
  | none =>
    dsimp only
    refine (alongside_readSheet sheet).bind (fun rows rows' alike => ?_) h h' beside
    exact fun k k' beside => ⟨.ok alike, beside.keep lawful sheet alike⟩

theorem find?_alike {p : SheetRow → Bool} (same : ∀ row row', RowAlike row row' → p row = p row') :
    ∀ {rows rows' : List SheetRow}, List.Forall₂ RowAlike rows rows' → Option.Rel RowAlike (rows.find? p) (rows'.find? p)
  | _, _, .nil => .none
  | row :: _, row' :: _, .cons first rest => by
    rw [List.find?_cons, List.find?_cons, same row row' first]
    split
    · exact .some first
    · exact find?_alike same rest

theorem alongside_findRow (lawful : shelf.Lawful) (sheet : Sheet) (testId : String) :
    Alongside shelf paths (Option.Rel RowAlike) (findRow shelf (sheet.workbook paths) sheet.name testId)
      (findRow shelf (sheet.workbook paths) sheet.name testId) :=
  (alongside_sheetRows lawful sheet).bind fun _ _ alike =>
    alongside_pure (find?_alike (fun _ _ same => by rw [same.2]) alike)

/-! ## What a source answers -/

/-- The same cases, the same keywords, and input that is the same mapping. -/
def Alike : (q : Inquiry) → q.Answer → q.Answer → Prop
  | .cases, cases, cases' => cases = cases'
  | .keywords _, keywords, keywords' => keywords = keywords'
  | .input _, input, input' => RowAlike input input'

theorem alongside_ask (lawful : shelf.Lawful) (q : Inquiry) :
    Alongside shelf paths (Alike q) ((source shelf paths).ask q) ((source shelf paths).ask q) := by
  cases q with
  | cases =>
    refine (alongside_logging _ _).bind fun _ _ _ => (alongside_sheetRows lawful .cases).bind fun rows rows' alike => ?_
    have same : List.Forall₂ Eq ((rows.filter isActive).map descriptor) ((rows'.filter isActive).map descriptor) := by
      rw [List.forall₂_map_left_iff, List.forall₂_map_right_iff]
      exact (forall₂_filter (fun _ _ same => isActive_alike same) alike).imp fun _ _ => descriptor_alike
    rw [List.forall₂_eq_eq_eq] at same
    rw [same]
    exact (alongside_logging _ _).bind fun _ _ _ => alongside_pure rfl
  | keywords testId =>
    refine (alongside_findRow lawful .flow testId).bind fun row row' alike => ?_
    cases alike with
    | none => exact (alongside_logging _ _).bind fun _ _ _ => alongside_pure rfl
    | some alike =>
      dsimp only
      rw [keywords_alike alike]
      exact (alongside_logging _ _).bind fun _ _ _ => alongside_pure rfl
  | input testId =>
    refine (alongside_findRow lawful .data testId).bind fun row row' alike => ?_
    cases alike with
    | none => exact (alongside_logging _ _).bind fun _ _ _ => alongside_pure (.refl _)
    | some alike => exact alongside_pure (texts_alike alike)

/-! ## What can be answered -/

/-- A sheet of a file that can be read, whose cells all have texts. -/
def Legible (name : String) (file : Except Fault Workbook) : Prop :=
  ∃ book, file = .ok book ∧
    ∀ rows, book.get? name = some rows → ∀ row ∈ rows, ∀ cell ∈ row, ∃ text, cell.cellTextOrFault = .ok text

theorem exists_table {rows : List (List Value)}
    (legible : ∀ row ∈ rows, ∀ cell ∈ row, ∃ text, cell.cellTextOrFault = .ok text) :
    ∃ read, table (evenRows rows) = .ok read := by
  -- what rows are filled up with can be read as well
  have even : ∀ row ∈ evenRows rows, ∀ cell ∈ row, ∃ text, cell.cellTextOrFault = .ok text := by
    intro row held cell inside
    obtain ⟨short, kept, rfl⟩ := List.mem_map.1 held
    rcases List.mem_append.1 inside with inside | padding
    · exact legible short ((List.rdropWhile_prefix _ _).subset kept) cell inside
    · exact ⟨"", by rw [List.eq_of_mem_replicate padding]; rfl⟩
  cases found : evenRows rows with
  | nil => exact ⟨[], rfl⟩
  | cons header body =>
    rw [found] at even
    obtain ⟨first, others⟩ := List.forall_mem_cons.1 even
    obtain ⟨columns, named⟩ : ∃ columns, headers header = .ok columns := by
      refine exists_mapM_ok fun numbered held => ?_
      obtain ⟨cell, n⟩ := numbered
      dsimp only
      split
      · exact ⟨_, rfl⟩
      · exact first cell (List.fst_mem_of_mem_zipIdx held)
    obtain ⟨read, texts⟩ : ∃ read, body.mapM (rowTexts columns) = .ok read := by
      refine exists_mapM_ok fun row held => ?_
      obtain ⟨cells, texts⟩ : ∃ cells, (columns.zip row).mapM readCell = .ok cells := by
        refine exists_mapM_ok fun named inside => ?_
        obtain ⟨text, shown⟩ := others row held named.2 (List.of_mem_zip inside).2
        exact ⟨(named.1, text), by rw [readCell, shown]; rfl⟩
      exact ⟨Entries.setAll [] cells, congrArg (· >>= fun cells => pure (Entries.setAll [] cells)) texts⟩
    refine ⟨read.filter fun row => (filled? row idColumn).isSome, ?_⟩
    unfold table
    dsimp only
    rw [named]
    exact congrArg (· >>= fun rows => pure (rows.filter fun row => (filled? row idColumn).isSome)) texts

/-- The sheet that an inquiry is about. -/
def sheetOf : Inquiry → Sheet
  | .cases => .cases
  | .keywords _ => .flow
  | .input _ => .data

theorem exists_run_sheetRows (shelf : Place ε SheetShelf) (sheet : Sheet) {h : Host ε}
    (legible : Legible sheet.name (ofFile h.files (sheet.workbook paths))) :
    ∃ rows h', (sheetRows shelf (sheet.workbook paths) sheet.name).run h = (.ok rows, h') := by
  obtain ⟨book, file, legible⟩ := legible
  obtain ⟨rows, h', read⟩ : ∃ rows h', (readSheet (sheet.workbook paths) sheet.name).run h = (.ok rows, h') := by
    cases held : book.get? sheet.name with
    | none =>
      unfold readSheet
      rw [Act.run_bind, Act.run_get]
      simp only [file, held]
      exact ⟨_, _, rfl⟩
    | some cells =>
      obtain ⟨log, run⟩ := run_readSheet file held
      obtain ⟨rows, read⟩ := exists_table (legible cells held)
      exact ⟨rows, _, by rw [run, read]⟩
  unfold sheetRows
  rw [Act.run_bind, Act.run_get]
  dsimp only
  split
  · exact ⟨_, _, rfl⟩
  · exact ⟨_, _, Act.run_bind_of_ok read⟩

theorem exists_run_findRow (shelf : Place ε SheetShelf) (sheet : Sheet) (testId : String) {h : Host ε}
    (legible : Legible sheet.name (ofFile h.files (sheet.workbook paths))) :
    ∃ row? h', (findRow shelf (sheet.workbook paths) sheet.name testId).run h = (.ok row?, h') := by
  obtain ⟨rows, h', read⟩ := exists_run_sheetRows shelf sheet legible
  exact ⟨_, h', Act.run_bind_of_ok read⟩

theorem exists_answer (shelf : Place ε SheetShelf) {q : Inquiry} {h : Host ε}
    (legible : Legible (sheetOf q).name (ofFile h.files ((sheetOf q).workbook paths))) :
    ∃ a h', ((source shelf paths).ask q).run h = (.ok a, h') := by
  cases q with
  | cases =>
    have told : Legible Sheet.cases.name
        (ofFile (h.note .info "Getting active test cases from TestRunner").files (Sheet.cases.workbook paths)) := legible
    obtain ⟨rows, h', read⟩ := exists_run_sheetRows shelf .cases told
    exact ⟨_, _, (Act.run_bind_of_ok rfl).trans (Act.run_bind_of_ok read)⟩
  | keywords testId =>
    obtain ⟨row?, h', found⟩ := exists_run_findRow shelf .flow testId legible
    cases row? <;> exact ⟨_, _, Act.run_bind_of_ok found⟩
  | input testId =>
    obtain ⟨row?, h', found⟩ := exists_run_findRow shelf .data testId legible
    cases row? <;> exact ⟨_, _, Act.run_bind_of_ok found⟩

/-! ## Keywords by their numbers -/

/-- What a row has under a numbered header, without the blanks around it. -/
def numbered (row : SheetRow) (n : Nat) : String := Text.strip ((row.get? ("Keyword" ++ toString n)).getD "")

/-- The texts under the numbered headers that are not blank, by their numbers up to a greatest one. -/
def InSequence (row : SheetRow) (most : Int) (keywords : List Value) : Prop :=
  ∃ numbers : List Nat, numbers.Pairwise (· < ·) ∧ (∀ n, n ∈ numbers ↔ 1 ≤ n ∧ (n : Int) ≤ most ∧ numbered row n ≠ "") ∧
    keywords = numbers.map fun n => .text (numbered row n)

theorem keywords_eq (row : SheetRow) (most : Nat) : keywords row most =
    (List.range most).filterMap fun n => if numbered row (n + 1) = "" then none else some (numbered row (n + 1)) := by
  unfold keywords
  refine congrArg (List.filterMap · _) (funext fun n => ?_)
  unfold numbered
  split
  · rename_i blank
    rw [if_pos blank]
  · rename_i filled
    rw [if_neg filled]

theorem inSequence_keywords (row : SheetRow) (most : Int) :
    InSequence row most ((keywords row most.toNat).map .text) := by
  refine ⟨((List.range most.toNat).map (· + 1)).filter fun n => numbered row n ≠ "", ?_, fun n => ?_, ?_⟩
  · have counted : ((List.range most.toNat).map (· + 1)).Pairwise (· < ·) :=
      List.pairwise_map.2 (List.pairwise_lt_range.imp fun less => Nat.succ_lt_succ less)
    exact counted.filter _
  · have counted : n ∈ (List.range most.toNat).map (· + 1) ↔ 1 ≤ n ∧ (n : Int) ≤ most := by
      simp only [List.mem_map, List.mem_range]
      constructor
      · rintro ⟨k, small, rfl⟩
        omega
      · exact fun ⟨positive, small⟩ => ⟨n - 1, by omega, by omega⟩
    rw [List.mem_filter, counted, decide_eq_true_iff, and_assoc]
  · rw [keywords_eq]
    generalize List.range most.toNat = ns
    induction ns with
    | nil => rfl
    | cons n ns ih =>
      rw [List.filterMap_cons, List.map_cons]
      by_cases blank : numbered row (n + 1) = ""
      · rw [if_pos blank, List.filter_cons_of_neg (by simpa using blank), ← ih]
      · rw [if_neg blank, List.filter_cons_of_pos (by simpa using blank), List.map_cons, List.map_cons, ← ih]

theorem exists_rows_of_loadKeywords {testId : String} {h k : Host ε} {keywords : List Value}
    (loaded : ((source shelf paths).loadKeywords testId).run h = (.ok keywords, k)) :
    ∃ rows k', (sheetRows shelf paths.flow "TestFlow").run h = (.ok rows, k') ∧
      match rows.find? fun row => row.get? idColumn == some testId with
      | some row => InSequence row paths.maxKeywords keywords
      | none => keywords = [] := by
  obtain ⟨row?, k₁, found, answered⟩ := Act.exists_of_run_bind loaded
  obtain ⟨rows, k', read, picked⟩ := Act.exists_of_run_bind found
  cases picked
  refine ⟨rows, _, read, ?_⟩
  cases listed : rows.find? fun row => row.get? idColumn == some testId with
  | some row =>
    rw [listed] at answered
    cases answered
    exact inSequence_keywords row paths.maxKeywords
  | none =>
    rw [listed] at answered
    cases answered
    rfl

/-! ## Over time -/

/-- Two hosts on which a new source is asked the same, while the sheets in their files may change together. -/
inductive Together (shelf : Place ε SheetShelf) (paths : WorkbookPaths) : Host ε → Host ε → Prop
  | fresh {h h' : Host ε} : (∀ sheet : Sheet, (shelf.get h.outer).get? (sheet.key paths) = none) →
      (∀ sheet : Sheet, (shelf.get h'.outer).get? (sheet.key paths) = none) → SameBooks paths h.files h'.files →
      Together shelf paths h h'
  | asked {h h' : Host ε} (q : Inquiry) : Together shelf paths h h' →
      Together shelf paths (((source shelf paths).ask q).run h).2 (((source shelf paths).ask q).run h').2
  | passed {h h' k k' : Host ε} : Together shelf paths h h' → shelf.get k.outer = shelf.get h.outer →
      shelf.get k'.outer = shelf.get h'.outer → SameBooks paths k.files k'.files → Together shelf paths k k'

theorem Together.beside (lawful : shelf.Lawful) {h h' : Host ε} (together : Together shelf paths h h') :
    Beside shelf paths h h' := by
  induction together with
  | fresh new new' books => exact ⟨books, fun sheet => by rw [new sheet, new' sheet]; exact .none⟩
  | asked q _ ih => exact (alongside_ask lawful q _ _ ih).2
  | passed _ still still' books ih => exact ⟨books, fun sheet => by rw [still, still']; exact ih.kept sheet⟩

/-- With the columns of its sheets in another order a source answers the same, and it answers if the sheet it is
asked about can be read. Its keywords are in the order of the numbers in their headers. -/
theorem answers_in_any_column_order (lawful : shelf.Lawful) {h h' : Host ε} (together : Together shelf paths h h')
    (q : Inquiry) :
    Tallies (Alike q) (((source shelf paths).ask q).run h).1 (((source shelf paths).ask q).run h').1 ∧
      (Legible (sheetOf q).name (ofFile h.files ((sheetOf q).workbook paths)) →
        ∃ a a' k k', ((source shelf paths).ask q).run h = (.ok a, k) ∧
          ((source shelf paths).ask q).run h' = (.ok a', k') ∧ Alike q a a') ∧
      ∀ testId keywords k, ((source shelf paths).loadKeywords testId).run h = (.ok keywords, k) →
        ∃ rows k', (sheetRows shelf paths.flow "TestFlow").run h = (.ok rows, k') ∧
          match rows.find? fun row => row.get? idColumn == some testId with
          | some row => InSequence row paths.maxKeywords keywords
          | none => keywords = [] := by
  obtain ⟨tallies, -⟩ := alongside_ask lawful q h h' (together.beside lawful)
  refine ⟨tallies, fun legible => ?_, fun testId keywords k => exists_rows_of_loadKeywords⟩
  obtain ⟨a, k, answered⟩ := exists_answer shelf legible
  rw [answered] at tallies
  generalize ended : ((source shelf paths).ask q).run h' = outcome at tallies
  obtain ⟨r, k'⟩ := outcome
  cases tallies with
  | ok alike => exact ⟨a, _, k, k', answered, rfl, alike⟩

end

/-! ## A sheet with its columns turned -/

def stepCells : List (List Value) :=
  [[.text "TestID", .text "Keyword2", .text "Owner", .text "Keyword1"],
    [.text "TC1", .text " Close ", .null, .text "Open"]]

/-- Workbooks in one file, with the same cells in every sheet. -/
def oneBook (cells : List (List Value)) : Workbook := [("TestCases", cells), ("TestFlow", cells), ("TestData", cells)]

def onlyBook : FilePath := ⟨"", ["suite.xlsx"]⟩

def oneBookHost (cells : List (List Value)) : Host SheetShelf where
  origin := ⟨⟨2024, 1, 1⟩, ⟨0, 0, 0, 0⟩, some 0⟩
  elapsed := 0.0
  files := ⟨[], [(["suite.xlsx"], .file (.workbook (oneBook cells)) 0.0)]⟩
  log := []
  outer := []

theorem ofFile_oneBookHost (cells : List (List Value)) :
    ofFile (oneBookHost cells).files onlyBook = .ok (oneBook cells) := by
  have known : extensionFault? (extension onlyBook) = none := by decide +kernel
  have located : (oneBookHost cells).files.locate onlyBook = .ok ["suite.xlsx"] := by
    rw [Files.locate_eq (by decide +kernel) (by decide +kernel)]
    rfl
  have found : (oneBookHost cells).files.find onlyBook = .ok (.file (.workbook (oneBook cells)) 0.0) :=
    Files.find_eq_ok.2 ⟨_, located, rfl⟩
  unfold ofFile
  rw [known, found]

theorem rearranged_stepCells : Rearranged stepCells (stepCells.map (turned [3, 2, 0, 1])) := by
  have named : IsHeader ["TestID", "Keyword2", "Owner", "Keyword1"]
      [.text "TestID", .text "Keyword2", .text "Owner", .text "Keyword1"] := ⟨by simp [isEmptyCell], rfl, by decide⟩
  exact .turned named (by simp) (by decide)

/-- Turned around in the file, a row has the same keywords in the same order. -/
theorem answers_in_any_column_order_stepCells :
    let keywords := (source (SuiteDocument.wholePlace _) ⟨onlyBook, onlyBook, onlyBook, 3⟩).loadKeywords "TC1"
    (keywords.run (oneBookHost stepCells)).1 = .ok [.text "Open", .text "Close"] ∧
      (keywords.run (oneBookHost (stepCells.map (turned [3, 2, 0, 1])))).1 = .ok [.text "Open", .text "Close"] := by
  intro keywords
  let paths : WorkbookPaths := ⟨onlyBook, onlyBook, onlyBook, 3⟩
  have held : ∀ cells (sheet : Sheet), (oneBook cells).get? sheet.name = some cells :=
    fun cells sheet => by cases sheet <;> rfl
  have file : ∀ cells (sheet : Sheet), ofFile (oneBookHost cells).files (sheet.workbook paths) = .ok (oneBook cells) :=
    fun cells sheet => by cases sheet <;> exact ofFile_oneBookHost cells
  have together : Together (SuiteDocument.wholePlace _) paths (oneBookHost stepCells)
      (oneBookHost (stepCells.map (turned [3, 2, 0, 1]))) := by
    refine .fresh (fun _ => rfl) (fun _ => rfl) fun sheet => ?_
    rw [file, file]
    refine .read ?_
    rw [held, held]
    exact .some rearranged_stepCells
  have legible : Legible "TestFlow" (ofFile (oneBookHost stepCells).files onlyBook) := by
    refine ⟨_, ofFile_oneBookHost stepCells, fun rows here row listed cell inside => ?_⟩
    cases here
    fin_cases listed <;> fin_cases inside <;> exact ⟨_, rfl⟩
  obtain ⟨-, answers, -⟩ := answers_in_any_column_order (SuiteDocument.lawful_wholePlace _) together (.keywords "TC1")
  obtain ⟨first, second, k, k', answered, answered', same⟩ := answers legible
  let tables : Tables := fun _ => [[("TestID", "TC1"), ("Keyword2", " Close "), ("Owner", ""), ("Keyword1", "Open")]]
  have read : table (evenRows stepCells) = .ok (tables .flow) := by cbv
  have serves : Serves (SuiteDocument.wholePlace _) paths tables (oneBookHost stepCells) := fun sheet =>
    .inr ⟨rfl, _, _, file stepCells sheet, held stepCells sheet, read⟩
  have upheld : Upheld (SuiteDocument.wholePlace _) paths tables (Serves (SuiteDocument.wholePlace _) paths tables) :=
    ⟨fun _ serves => serves, fun _ _ _ serves => serves,
      fun sheet _ serves => serves.keep (SuiteDocument.lawful_wholePlace _) sheet⟩
  -- one side is read for itself, the other one is told by the theorem
  have known : (keywords.run (oneBookHost stepCells)).1 = .ok [.text "Open", .text "Close"] := by
    obtain ⟨after, run, -⟩ := upheld.yields_loadKeywords "TC1" _ serves
    have listed : tables.keywords 3 "TC1" = [.text "Open", .text "Close"] := by cbv
    exact (congrArg Prod.fst run).trans (congrArg Except.ok listed)
  refine ⟨known, ?_⟩
  change first = second at same
  change (((source _ paths).ask (.keywords "TC1")).run _).1 = _ at known
  rw [answered] at known
  rw [← same] at answered'
  exact (congrArg Prod.fst answered').trans known

end Workbook

end KeywordSuite
