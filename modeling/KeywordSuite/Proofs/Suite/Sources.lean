import KeywordSuite.Proofs.CommandLine.Equipment
import KeywordSuite.Proofs.Definition.Written
import KeywordSuite.Proofs.Suite.Rearranged
import KeywordSuite.Proofs.Suite.Reporting

/-!
# Documents and workbooks are interchangeable

A suite that is written down in a document and in workbooks runs to the same results whichever of them it is read
from: the same cases are listed, and what is loaded of them is the same but for an order of the data and for blanks
that come to nothing when a test case runs.
-/

namespace KeywordSuite

open Workbook (Sheet Tables)

/-! ## Sources that agree -/

section

variable {ω ω' : Type} {R : ω → ω' → Prop} {s : Surroundings ω} {t : Surroundings ω'}

/-- A source without test cases. -/
def DefinitionSource.empty : DefinitionSource ω := ⟨return [], fun _ => return [], fun _ => return []⟩

structure DefinitionSource.Agree (R : ω → ω' → Prop) (source : DefinitionSource ω) (source' : DefinitionSource ω') :
    Prop where
  listActive : Act.Agree R source.listActive source'.listActive
  loadInput : ∀ testId, Act.Agree R (source.loadInput testId) (source'.loadInput testId)
  loadKeywords : ∀ testId, Act.Agree R (source.loadKeywords testId) (source'.loadKeywords testId)

namespace Surroundings

variable {source₀ source : DefinitionSource ω} {source₀' source' : DefinitionSource ω'}

theorem Indifferent.reading (h : (s.reading source₀).Indifferent R (t.reading source₀')) :
    (s.reading source).Indifferent R (t.reading source') where
  left op aside w w' related := by
    have told := h.left op aside w w' related
    cases op with
    | log | report | inform => exact told
    | _ => exact aside.elim
  right op aside w w' related := by
    have told := h.right op aside w w' related
    cases op with
    | log | report | inform => exact told
    | _ => exact aside.elim

variable (sources : source.Agree R source')
include sources

theorem AgreeUntimed.reading (h : (s.reading source₀).AgreeUntimed R (t.reading source₀')) :
    (s.reading source).AgreeUntimed R (t.reading source') :=
  { h with
    listActive := sources.listActive
    loadInput := sources.loadInput
    loadKeywords := sources.loadKeywords }

theorem AgreeFully.reading (h : (s.reading source₀).AgreeFully R (t.reading source₀')) :
    (s.reading source).AgreeFully R (t.reading source') :=
  { h with toAgreeUntimed := h.toAgreeUntimed.reading sources }

theorem AgreeUnstamped.reading (h : (s.reading source₀).AgreeUnstamped R (t.reading source₀')) :
    (s.reading source).AgreeUnstamped R (t.reading source') :=
  { h with toAgreeUntimed := h.toAgreeUntimed.reading sources }

end Surroundings

end

section

variable {ω : Type} {s : Surroundings ω} {h : (op : SharedOp) → op.Reply → op.Reply} (rearranges : Rearranges h)
include rearranges

theorem Surroundings.Later.of_rearranged {w w' : World ω} (later : (s.rearranged h).Later w w') : s.Later w w' := by
  induction later with
  | refl => exact .refl
  | step op _ ih =>
    rw [handle_rearranged rearranges]
    exact ih.step op

theorem Surroundings.Orderly.rearranged (hs : s.Orderly) : (s.rearranged h).Orderly where
  create := hs.create
  browse := hs.browse
  sleep := hs.sleep
  loadInput testId := (hs.loadInput testId).bind fun _ => Act.ordinarily_pure _
  loadKeywords testId := (hs.loadKeywords testId).bind fun _ => Act.ordinarily_pure _
  report := hs.report
  capture := hs.capture
  listeners := hs.listeners
  outside := hs.outside
  closes := hs.closes
  steady w w' later := hs.steady w w' (later.of_rearranged rearranges)

end

/-! ## A suite that is written down twice -/

/-- A view that shows neither the log of a host nor what is kept in a place. -/
structure Host.Overlooks {ε φ τ : Type} (view : Host ε → φ) (place : Place ε τ) : Prop where
  log : ∀ level message h, view (h.note level message) = view h
  place : ∀ t h, view { h with outer := place.set t h.outer } = view h

/--
Where a suite is written down in a document and in workbooks, the places where what was read of them is kept, and
what else is to be seen of the hosts.
-/
structure WrittenTwice (suite : WrittenSuite) (ε ε' φ : Type) where
  path : FilePath
  kept : Place ε (Option SuiteDocument)
  paths : WorkbookPaths
  shelf : Place ε' SheetShelf
  layout : SheetLayout
  view : Host ε → φ
  view' : Host ε' → φ
  fits : suite.FitsIn layout
  few : ∀ c ∈ suite.cases, c.keywords.length ≤ paths.maxKeywords.toNat
  lawful : kept.Lawful
  lawful' : shelf.Lawful
  overlooks : Host.Overlooks view kept
  overlooks' : Host.Overlooks view' shelf

namespace WrittenTwice

variable {suite : WrittenSuite} {ε ε' φ : Type} (x : WrittenTwice suite ε ε' φ)

def document : DefinitionSource (Host ε) := SuiteDocument.source x.path x.kept

def workbooks : DefinitionSource (Host ε') := Workbook.source x.shelf x.paths

/-- The document was read before, or stands in the file. -/
def InDocument (h : Host ε) : Prop :=
  x.kept.get h.outer = some suite.document ∨
    x.kept.get h.outer = none ∧ ∃ text v, h.files.readText x.path = .ok text ∧ Json.read text = .ok v ∧ suite.IsDocument v

/-- Each sheet was read before, or stands in its workbook. -/
def InWorkbooks (h : Host ε') : Prop := ∀ sheet : Sheet,
  (∃ rows, (x.shelf.get h.outer).get? (sheet.key x.paths) = some rows ∧ suite.IsTable x.layout sheet rows) ∨
    (x.shelf.get h.outer).get? (sheet.key x.paths) = none ∧
      ∃ book cells, Workbook.ofFile h.files (sheet.workbook x.paths) = .ok book ∧ book.get? sheet.name = some cells ∧
        suite.IsSheet x.layout sheet cells

/-- Hosts that have the suite, the one in a document and the other in workbooks, and that look the same besides. -/
def Hosts (h : Host ε) (h' : Host ε') : Prop := x.view h = x.view' h' ∧ x.InDocument h ∧ x.InWorkbooks h'

variable {x} {seen : φ}

/-! ## Reading the document -/

theorem yields_load : (SuiteDocument.load x.path x.kept).Yields (fun h => x.InDocument h ∧ x.view h = seen)
    suite.document := by
  rintro h ⟨held | ⟨fresh, text, v, file, json, written⟩, same⟩
  · exact ⟨h, SuiteDocument.run_load_of_kept held, .inl held, same⟩
  · have read : SuiteDocument.read text = .ok suite.document := by
      unfold SuiteDocument.read
      rw [json]
      exact written.ofValue
    refine ⟨_, SuiteDocument.run_load_of_file fresh file read, .inl (x.lawful _ _), ?_⟩
    exact (x.overlooks.log _ _ _).trans ((x.overlooks.place _ h).trans same)

theorem yields_warning (message : String) :
    (Host.logging .warning message).Yields (fun h => x.InDocument h ∧ x.view h = seen) () :=
  Act.yields_modify fun h here => ⟨here.1, (x.overlooks.log _ _ h).trans here.2⟩

theorem yields_listActive : x.document.listActive.Yields (fun h => x.InDocument h ∧ x.view h = seen)
    suite.document.activeCases :=
  yields_load.bind (Act.yields_pure _)

theorem yields_loadInput (testId : String) :
    (x.document.loadInput testId).Yields (fun h => x.InDocument h ∧ x.view h = seen) (suite.input testId) := by
  refine yields_load.bind ?_
  rw [suite.ofId?_document]
  unfold WrittenSuite.input
  cases found : suite.ofId? testId with
  | none => exact (yields_warning _).bind (Act.yields_pure _)
  | some c =>
    obtain ⟨member, rfl⟩ := WrittenSuite.mem_of_ofId? found
    dsimp only [Option.map_some]
    rw [inputTexts_entry member]
    exact Act.yields_pure _

theorem yields_loadKeywords (testId : String) :
    (x.document.loadKeywords testId).Yields (fun h => x.InDocument h ∧ x.view h = seen) (suite.keywords testId) := by
  refine yields_load.bind ?_
  rw [suite.ofId?_document]
  unfold WrittenSuite.keywords
  cases suite.ofId? testId with
  | none => exact (yields_warning _).bind (Act.yields_pure _)
  | some c => exact Act.yields_pure _

/-! ## Reading the workbooks -/

theorem InWorkbooks.exists_tables {h : Host ε'} (here : x.InWorkbooks h) :
    ∃ t : Tables, (∀ sheet, suite.IsTable x.layout sheet (t sheet)) ∧ Workbook.Serves x.shelf x.paths t h := by
  have each : ∀ sheet : Sheet, ∃ rows, suite.IsTable x.layout sheet rows ∧
      Workbook.Offers x.shelf (sheet.workbook x.paths) sheet.name rows h := by
    intro sheet
    rcases here sheet with ⟨rows, kept, table⟩ | ⟨fresh, book, cells, file, held, written⟩
    · exact ⟨rows, table, .inl kept⟩
    · obtain ⟨rows, read, table⟩ := written.table x.fits
      exact ⟨rows, table, .inr ⟨fresh, book, cells, file, held, read⟩⟩
  choose t tables offers using each
  exact ⟨t, tables, offers⟩

theorem upheld {t : Tables} (tables : ∀ sheet, suite.IsTable x.layout sheet (t sheet)) :
    Workbook.Upheld x.shelf x.paths t
      (fun h => x.InWorkbooks h ∧ Workbook.Serves x.shelf x.paths t h ∧ x.view' h = seen) where
  serves _ here := here.2.1
  logs level message h here := ⟨here.1, here.2.1, (x.overlooks'.log level message h).trans here.2.2⟩
  keeps sheet h here := by
    refine ⟨fun other => ?_, here.2.1.keep x.lawful' sheet, (x.overlooks'.place _ h).trans here.2.2⟩
    unfold Workbook.keeping
    dsimp only
    rw [x.lawful', Entries.get?_set]
    split
    · rename_i same
      obtain rfl := Sheet.eq_of_key same
      exact .inl ⟨_, rfl, tables other⟩
    · exact here.1 other

end WrittenTwice

/-! ## What the workbooks load, as the document has it -/

open Classical in
/-- What is loaded of a test case, as a document has it. -/
noncomputable def WrittenSuite.render (suite : WrittenSuite) : (op : SharedOp) → op.Reply → op.Reply
  | .loadInput testId, data =>
    if Entries.SameMapping data (suite.input testId) then suite.input testId else data
  | .loadKeywords testId, sequence =>
    if CaseDescriptor.SameSequence sequence (suite.keywords testId) then suite.keywords testId else sequence
  | _, reply => reply

open Classical in
theorem WrittenSuite.rearranges_render (suite : WrittenSuite) : Rearranges suite.render where
  plain op other := by
    cases op with
    | loadInput | loadKeywords => cases other
    | _ => rfl
  input testId data := by
    change Entries.SameMapping data (if _ then _ else _)
    split
    · assumption
    · exact fun _ _ => rfl
  keywords testId sequence := by
    change CaseDescriptor.SameSequence sequence (if _ then _ else _)
    split
    · assumption
    · exact ⟨rfl, Iff.rfl⟩

namespace WrittenTwice

variable {suite : WrittenSuite} {ε ε' φ : Type} (x : WrittenTwice suite ε ε' φ)

/-- The workbooks, with what they load of a test case as the document has it. -/
noncomputable def rendered : DefinitionSource (Host ε') := x.workbooks.mapReplies suite.render

variable {x}

theorem agree_of_yields {α : Type} {p : Act (Host ε) α} {q : Act (Host ε') α} {a : α}
    (left : ∀ seen, p.Yields (fun h => x.InDocument h ∧ x.view h = seen) a)
    (right : ∀ t seen, (∀ sheet, suite.IsTable x.layout sheet (t sheet)) →
      q.Yields (fun h => x.InWorkbooks h ∧ Workbook.Serves x.shelf x.paths t h ∧ x.view' h = seen) a) :
    Act.Agree x.Hosts p q := by
  rintro h h' ⟨same, document, workbooks⟩
  obtain ⟨t, tables, serves⟩ := workbooks.exists_tables
  obtain ⟨h₁, reads, document, seen⟩ := left (x.view h) h ⟨document, rfl⟩
  obtain ⟨h₁', reads', workbooks, -, seen'⟩ := right t (x.view' h') tables h' ⟨workbooks, serves, rfl⟩
  rw [reads, reads']
  exact ⟨rfl, seen.trans (same.trans seen'.symm), document, workbooks⟩

theorem agree_rendered : x.document.Agree x.Hosts x.rendered where
  listActive := by
    refine agree_of_yields (fun _ => yields_listActive) fun t seen tables => ?_
    rw [← activeCases_table (tables .cases) x.fits]
    exact (upheld tables).yields_listActive
  loadInput testId := by
    refine agree_of_yields (fun _ => yields_loadInput testId) fun t seen tables => ?_
    have same : suite.render (.loadInput testId) (t.input testId) = suite.input testId :=
      if_pos (sameMapping_input (tables .data) testId)
    rw [← same]
    exact ((upheld tables).yields_loadInput testId).bind (Act.yields_pure _)
  loadKeywords testId := by
    refine agree_of_yields (fun _ => yields_loadKeywords testId) fun t seen tables => ?_
    have same : suite.render (.loadKeywords testId) (t.keywords x.paths.maxKeywords.toNat testId) = suite.keywords testId :=
      if_pos (sameSequence_keywords (tables .flow) x.fits x.few testId)
    rw [← same]
    exact ((upheld tables).yields_loadKeywords testId).bind (Act.yields_pure _)

end WrittenTwice

/-! ## Runs -/

namespace Surroundings

variable {ω ω' : Type}

/-- For every schedule of the one suite the other has a schedule on which it comes to a summary that is alike. -/
def RunsAlike (s : Surroundings ω) (w : World ω) (s' : Surroundings ω') (w' : World ω') (plan : SuitePlan) : Prop :=
  ∀ schedule, ∃ schedule', (plan.workers ≤ 1 → schedule' = schedule) ∧
    Agreed (SuiteSummary.Rel CaseResult.Alike fun _ _ => True) (s.runSuite plan schedule w).1.summary
      (s'.runSuite plan schedule' w').1.summary

theorem AgreeUnstamped.runsAlike {R : ω → ω' → Prop} {s : Surroundings ω} {t : Surroundings ω'} {plan : SuitePlan}
    (h : s.AgreeUnstamped R t) (aside : s.Indifferent R t) (hs : s.Orderly) (ht : t.Orderly)
    (hr : plan.registry.Isolated) {w : World ω} {w' : World ω'} (related : World.Related R w w') :
    s.RunsAlike w t w' plan := by
  intro schedule
  obtain ⟨schedule', few, alike, -⟩ :=
    (h.paced aside hs ht).runSuite ((SuitePlan.SameWork.refl plan).paced hr) rfl schedule related
  exact ⟨schedule', few, alike⟩

end Surroundings

section

variable {suite : WrittenSuite} {ε ε' φ : Type} {x : WrittenTwice suite ε ε' φ} {s : Surroundings (Host ε)}
  {s' : Surroundings (Host ε')} {plan : SuitePlan} {w : World (Host ε)} {w' : World (Host ε')}

end

/-! ## Two writings of one suite -/

/-- Surroundings on a host, without a browser and without a report. -/
def Surroundings.unattended (ε : Type) : Surroundings (Host ε) where
  log := Host.note
  create _ _ := throw (.plain .runtime "no browser")
  browse _ _ := throw (.plain .runtime "browser is gone")
  defaultConfig := {}
  now := Host.now
  localNow := Host.localNow
  stopwatch _ := 0.0
  sleep := Host.sleep
  source := .empty
  report := none
  capture := .absent
  listeners := []
  outside _ _ := throw (.plain .runtime "no world")

/-- What a host shows of its clock. -/
def Host.clock {ε : Type} (h : Host ε) : Timestamp × Float := (h.origin, h.elapsed)

section

variable {suite : WrittenSuite} {ε ε' : Type} {x : WrittenTwice suite ε ε' (Timestamp × Float)} (seen : x.view = Host.clock)
  (seen' : x.view' = Host.clock)
include seen seen'

theorem agree_sleep (seconds : Float) : Act.Agree x.Hosts (Host.sleep seconds) (Host.sleep seconds) := by
  unfold Host.sleep
  split
  · exact Act.agree_throw _
  · split
    · exact Act.agree_throw _
    · intro h h' related
      obtain ⟨same, document, workbooks⟩ := related
      rw [seen, seen'] at same
      obtain ⟨origin, elapsed⟩ := Prod.mk.inj same
      refine ⟨rfl, ?_, document, workbooks⟩
      rw [seen, seen']
      exact Prod.ext origin (congrArg (· + seconds) elapsed)

theorem agreeUntimed_unattended : ((Surroundings.unattended ε).reading .empty).AgreeUntimed x.Hosts
    ((Surroundings.unattended ε').reading .empty) where
  log level message h h' related :=
    ⟨(x.overlooks.log level message h).trans (related.1.trans (x.overlooks'.log level message h').symm), related.2⟩
  create _ _ := Act.agree_throw _
  browse _ _ := Act.agree_throw _
  defaultConfig := rfl
  closeFault := rfl
  sleep := agree_sleep seen seen'
  listActive := Act.agree_pure _
  loadInput _ := Act.agree_pure _
  loadKeywords _ := Act.agree_pure _
  outside _ _ := Act.agree_throw _

theorem localNow_eq {h : Host ε} {h' : Host ε'} (related : x.Hosts h h') : h.localNow = h'.localNow := by
  have same := related.1
  rw [seen, seen'] at same
  obtain ⟨origin, elapsed⟩ := Prod.mk.inj same
  unfold Host.localNow
  rw [origin, elapsed]

theorem agreeFully_unattended : ((Surroundings.unattended ε).reading .empty).AgreeFully x.Hosts
    ((Surroundings.unattended ε').reading .empty) where
  toAgreeUntimed := agreeUntimed_unattended seen seen'
  now _ _ related := congrArg (fun t : Timestamp => { t with offset := some 0 }) (localNow_eq seen seen' related)
  localNow _ _ related := localNow_eq seen seen' related
  stopwatch _ _ _ := rfl
  capture := .absent
  report _ := Act.agree_pure none
  inform _ _ := Act.agree_pure ()

theorem agreeUnstamped_unattended : ((Surroundings.unattended ε).reading .empty).AgreeUnstamped x.Hosts
    ((Surroundings.unattended ε').reading .empty) where
  toAgreeUntimed := agreeUntimed_unattended seen seen'
  capture := .absent
  shots _ _ _ _ _ _ _ related := ⟨rfl, related⟩

end

theorem indifferent_unattended {suite : WrittenSuite} {ε ε' φ : Type} {x : WrittenTwice suite ε ε' φ} :
    ((Surroundings.unattended ε).reading .empty).Indifferent x.Hosts ((Surroundings.unattended ε').reading .empty) where
  left op aside w w' related := by
    cases op with
    | log level message =>
      exact ⟨rfl, related.1, (x.overlooks.log level message w.outer).trans related.2.1, related.2.2⟩
    | report => exact ⟨ordinary_ok none, related⟩
    | inform => exact ⟨ordinary_ok (), related⟩
    | _ => exact aside.elim
  right op aside w w' related := by
    cases op with
    | log level message =>
      exact ⟨rfl, related.1, related.2.1.trans (x.overlooks'.log level message w'.outer).symm, related.2.2⟩
    | report => exact ⟨ordinary_ok none, related⟩
    | inform => exact ⟨ordinary_ok (), related⟩
    | _ => exact aside.elim

theorem orderly_unattended {ε : Type} {source : DefinitionSource (Host ε)} (inputs : ∀ testId, (source.loadInput testId).Ordinarily)
    (keywords : ∀ testId, (source.loadKeywords testId).Ordinarily) : ((Surroundings.unattended ε).reading source).Orderly where
  create _ _ := Act.ordinarily_throw rfl
  browse _ _ := Act.ordinarily_throw rfl
  sleep seconds := by
    change (Host.sleep seconds).Ordinarily
    unfold Host.sleep
    split
    · exact Act.ordinarily_throw rfl
    · split
      · exact Act.ordinarily_throw rfl
      · exact fun _ => ordinary_ok _
  loadInput := inputs
  loadKeywords := keywords
  report _ told := by cases told
  capture _ _ other := by cases other
  listeners _ member := by cases member
  outside _ _ := Act.ordinarily_throw rfl
  closes := rfl
  steady _ _ _ := by
    show (0.0 : Float) ≤ 0.0 - 0.0
    decide

namespace WrittenTwice

def twinSuite : WrittenSuite where
  cases := [⟨"TC1", "", "First", some "T-1", true, ["wait", "", " x "], [("Seconds", "0"), ("k", "")]⟩]
  dataKeys := ["Seconds", "k"]
  ids := by decide
  named := by simp
  tickets := by simp
  distinct := by decide
  apart := by decide
  full := by
    intro c member
    obtain rfl := List.mem_singleton.1 member
    exact .refl _

def twinText : String :=
  "\x7b\"tests\":[\x7b\"test_id\":\"TC1\",\"test_name\":\"\",\"description\":\"First\",\"ticket_ref\":\"T-1\"," ++
  "\"execute\":\"Y\",\"keywords\":[\"wait\",\"\",\" x \"],\"data\":\x7b\"Seconds\":\"0\",\"k\":\"\"\x7d\x7d]\x7d"

def twinLayout : SheetLayout := ⟨"JiraTicket", 3⟩

/-- The cells of a sheet, in the order of the suite. -/
def twinCells (sheet : Sheet) : List (List Value) :=
  let columns := twinSuite.columns twinLayout sheet
  columns.map .text :: twinSuite.cases.map fun c => columns.map fun column => .text (c.cell twinLayout sheet column)

theorem isSheet_twinCells (sheet : Sheet) : twinSuite.IsSheet twinLayout sheet (twinCells sheet) := by
  refine ⟨_, _, ⟨.refl _, .refl _, fun _ => rfl⟩, _, rfl, ?_⟩
  rw [List.forall₂_map_left_iff, List.forall₂_map_right_iff, List.forall₂_same]
  intro c _
  rw [List.forall₂_map_right_iff, List.forall₂_same]
  exact fun column _ => .text _

/-- The value of a document of the suite. -/
def twinValue : Value :=
  .dict [("tests", .list (twinSuite.cases.map fun c => .dict [("test_id", .text c.testId), ("test_name", .text c.testName),
    ("description", .text c.description), ("ticket_ref", optionText c.ticket), ("execute", .text (activeFlag c.active)),
    ("keywords", .list (c.keywords.map .text)), ("data", .dict c.data.texts)]))]

theorem isDocument_twinValue : twinSuite.IsDocument twinValue := by
  refine ⟨_, _, rfl, rfl, ?_⟩
  rw [List.forall₂_map_left_iff, List.forall₂_same]
  refine fun c _ => ⟨_, rfl, rfl, rfl, rfl, ?_, rfl, rfl, rfl⟩
  cases c.ticket with
  | none => exact .null
  | some ticket => exact .text ticket

theorem read_twinText : Json.read twinText = .ok twinValue := by cbv

def twinBook : Workbook :=
  [("TestCases", twinCells .cases), ("TestFlow", twinCells .flow), ("TestData", twinCells .data)]

def bookPath : FilePath := ⟨"", ["suite.xlsx"]⟩

/-- A host on which workbooks are the only file, with every sheet in it. -/
def bookHost : Host SheetShelf where
  origin := ⟨⟨2024, 1, 1⟩, ⟨0, 0, 0, 0⟩, some 0⟩
  elapsed := 0.0
  files := ⟨[], [(["suite.xlsx"], .file (.workbook twinBook) 0.0)]⟩
  log := []
  outer := []

theorem ofFile_bookHost : Workbook.ofFile bookHost.files bookPath = .ok twinBook := by
  have name : bookPath.text = "suite.xlsx" := by decide +kernel
  have whole : bookPath.text.contains '\x00' = false := by rw [name]; simp
  have short : ¬ Files.pathLimit < bookPath.text.utf8ByteSize := by decide +kernel
  have known : Workbook.extensionFault? (Workbook.extension bookPath) = none := by decide +kernel
  have located : bookHost.files.locate bookPath = .ok ["suite.xlsx"] := by
    simp only [Files.locate, whole, short, if_false]
    rfl
  have found : bookHost.files.find bookPath = .ok (.file (.workbook twinBook) 0.0) := by
    rw [Files.find, located]
    rfl
  unfold Workbook.ofFile
  rw [known, found]

def twins : WrittenTwice twinSuite (Option SuiteDocument) SheetShelf (Timestamp × Float) where
  path := SuiteDocument.suitePath
  kept := SuiteDocument.wholePlace _
  paths := ⟨bookPath, bookPath, bookPath, 3⟩
  shelf := SuiteDocument.wholePlace _
  layout := twinLayout
  view := Host.clock
  view' := Host.clock
  fits := ⟨.inl rfl, by simp [twinSuite, twinLayout]⟩
  few := by simp [twinSuite]
  lawful := SuiteDocument.lawful_wholePlace _
  lawful' := SuiteDocument.lawful_wholePlace _
  overlooks := ⟨fun _ _ _ => rfl, fun _ _ => rfl⟩
  overlooks' := ⟨fun _ _ _ => rfl, fun _ _ => rfl⟩

theorem hosts_twins : twins.Hosts (SuiteDocument.documentHost twinText) bookHost := by
  refine ⟨rfl, ?_, fun sheet => ?_⟩
  · exact .inr ⟨rfl, twinText, twinValue, SuiteDocument.readText_documentHost (by decide +kernel), read_twinText,
      isDocument_twinValue⟩
  · have file : Workbook.ofFile bookHost.files (sheet.workbook twins.paths) = .ok twinBook := by
      cases sheet <;> exact ofFile_bookHost
    refine .inr ⟨rfl, twinBook, twinCells sheet, file, ?_, isSheet_twinCells sheet⟩
    cases sheet <;> rfl

end WrittenTwice

end KeywordSuite
