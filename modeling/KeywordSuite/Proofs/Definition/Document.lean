import Mathlib
import KeywordSuite.Definition.Document
import KeywordSuite.Proofs.Actions
import KeywordSuite.Proofs.Fault.Checked
import KeywordSuite.Proofs.Json.Reader

/-!
# What a suite document loads

Cases are listed in the order of their entries and loaded again by their identifier. An identifier
stands for the first entry that has it, whether or not that entry is active.
-/

namespace KeywordSuite

/-- A place that gives back what was put there. -/
def Place.Lawful {σ τ : Type} (p : Place σ τ) : Prop := ∀ t s, p.get (p.set t s) = t

namespace SuiteEntry

/-- `shown` holds the entries of `data` in order, each value as the text of a cell. -/
def CellTexts (data shown : Entries Value) : Prop :=
  List.Forall₂ (fun own seen => ∃ s, own.2.cellText = .ok s ∧ seen = (own.1, .text s)) data shown

/-- The input data is the entry's own, as texts, with its id unless the data has one of its own. -/
def Renders (e : SuiteEntry) (input : Entries Value) : Prop :=
  ∃ shown, CellTexts e.data shown ∧
    input = if Entries.has e.data "TestID" then shown else shown ++ [("TestID", .text e.testId)]

variable {e : SuiteEntry}

theorem CellTexts.has_eq {data shown : Entries Value} (h : CellTexts data shown) (key : String) :
    Entries.has shown key = Entries.has data key := by
  induction h with
  | nil => rfl
  | cons first _ ih =>
    obtain ⟨s, -, rfl⟩ := first
    unfold Entries.has Entries.get? at ih ⊢
    rw [List.lookup_cons, List.lookup_cons]
    split
    · rfl
    · exact ih

theorem exists_cellTexts {data : Entries Value} (h : ∀ entry ∈ data, entry.2.Shows) :
    ∃ shown, CellTexts data shown ∧
      data.mapM (fun entry => do return (entry.1, Value.text (← entry.2.cellTextOrFault))) = .ok shown := by
  induction data with
  | nil => exact ⟨[], .nil, rfl⟩
  | cons entry rest ih =>
    obtain ⟨s, hs⟩ := (h entry (by simp)).cellText
    obtain ⟨shown, hshown, hrest⟩ := ih fun other hother => h other (by simp [hother])
    refine ⟨(entry.1, .text s) :: shown, .cons ⟨s, hs, rfl⟩ hshown, ?_⟩
    have first : entry.2.cellTextOrFault = .ok s := by rw [Value.cellTextOrFault, hs]; rfl
    rw [List.mapM_cons, first, hrest]
    rfl

theorem inputTexts_renders (h : ∀ entry ∈ e.data, entry.2.Shows) :
    ∃ input, e.inputTexts = .ok input ∧ e.Renders input := by
  obtain ⟨shown, hshown, texts⟩ := exists_cellTexts h
  refine ⟨_, ?_, shown, hshown, rfl⟩
  unfold inputTexts
  rw [← hshown.has_eq]
  rw [texts]
  rfl

/-- The identifier, keywords and data of an entry are the fields of those names it was read from. -/
theorem fields_of_read {fields : Entries Value} (h : read fields = .valid e) :
    field fields "test_id" none Read.nonEmptyText = .valid e.testId ∧
      field fields "keywords" (some []) (Read.list Read.text) = .valid e.keywords ∧
      field fields "data" (some []) (Read.entries .valid) = .valid e.data := by
  simp only [read, Checked.seq_eq_valid, Checked.map_eq_valid] at h
  obtain ⟨_, data, ⟨_, keywords, ⟨_, _, ⟨_, _, ⟨_, _, ⟨_, _, ⟨testId, hid, rfl⟩, _, rfl⟩, _, rfl⟩, _, rfl⟩, _, rfl⟩,
    hkeywords, rfl⟩, hdata, rfl⟩ := h
  exact ⟨hid, hkeywords, hdata⟩

theorem data_of_read {fields : Entries Value} (h : read fields = .valid e) :
    Entries.get? fields "data" = some (.dict e.data) ∨ e.data = [] := by
  obtain ⟨-, -, hdata⟩ := fields_of_read h
  rcases of_field_eq_valid hdata with ⟨v, held, hv⟩ | ⟨-, default⟩
  · exact .inl (by rw [held, Read.entries_eq_valid hv])
  · exact .inr (Option.some.inj default).symm

end SuiteEntry

namespace SuiteDocument

/-- The first entry with an identifier: every entry before it has another. -/
def IsFirst (doc : SuiteDocument) (testId : String) (e : SuiteEntry) : Prop :=
  ∃ earlier later, doc = earlier ++ e :: later ∧ e.testId = testId ∧ ∀ other ∈ earlier, other.testId ≠ testId

section

variable {doc : SuiteDocument} {text testId : String} {e : SuiteEntry}

/-- An accepted text is a mapping, and each entry of the document is read from an item of its `tests`. -/
theorem exists_item_of_read (h : read text = .ok doc) (he : e ∈ doc) :
    ∃ (members : Entries Value) (items : List Value) (fields : Entries Value),
      Json.read text = .ok (.dict members) ∧ Entries.get? members "tests" = some (.list items) ∧
      .dict fields ∈ items ∧ SuiteEntry.read fields = .valid e := by
  obtain ⟨v, hv, hdoc⟩ := ok_of_bind h
  obtain ⟨members, rfl, hmembers⟩ := Read.model_eq_valid (Checked.toExcept_eq_ok.1 hdoc)
  rcases of_field_eq_valid hmembers with ⟨tests, held, hlist⟩ | ⟨-, default⟩
  · obtain ⟨items, rfl, item, hitem, hread⟩ := Read.exists_of_mem_list hlist he
    obtain ⟨fields, rfl, hfields⟩ := Read.model_eq_valid hread
    exact ⟨members, items, fields, hv, held, hitem, hfields⟩
  · cases default
    cases he

theorem shows_of_mem (h : read text = .ok doc) (he : e ∈ doc) : ∀ entry ∈ e.data, entry.2.Shows := by
  obtain ⟨members, items, fields, hvalue, htests, hitem, hfields⟩ := exists_item_of_read h he
  have hmembers := Value.shows_dict_iff.1 (Json.shows_of_read hvalue)
  have hitems := Value.shows_list_iff.1 (hmembers _ (Entries.mem_of_get? htests))
  have hall := Value.shows_dict_iff.1 (hitems _ hitem)
  rcases SuiteEntry.data_of_read hfields with hdata | hdata
  · exact Value.shows_dict_iff.1 (hall _ (Entries.mem_of_get? hdata))
  · simp [hdata]

theorem exists_isFirst (he : e ∈ doc) : ∃ first, doc.ofId? e.testId = some first ∧ doc.IsFirst e.testId first := by
  cases found : doc.ofId? e.testId with
  | none =>
    have := List.find?_eq_none.1 found e he
    simp at this
  | some first =>
    obtain ⟨same, earlier, later, rfl, others⟩ := List.find?_eq_some_iff_append.1 found
    exact ⟨first, rfl, earlier, later, rfl, by simpa using same, by simpa using others⟩

theorem IsFirst.eq_of_others {first : SuiteEntry} (hfirst : doc.IsFirst e.testId first)
    {before after : SuiteDocument} (listed : doc = before ++ e :: after)
    (others : ∀ other ∈ before, other.testId ≠ e.testId) : first = e := by
  obtain ⟨earlier, later, rfl, same, hearlier⟩ := hfirst
  rcases List.append_eq_append_iff.1 listed with ⟨more, rfl, hmore⟩ | ⟨more, rfl, hmore⟩
  · cases more with
    | nil => exact (List.cons.inj hmore).1
    | cons x more =>
      obtain ⟨rfl, -⟩ := List.cons.inj hmore
      exact absurd same (others first (by simp))
  · cases more with
    | nil => exact (List.cons.inj hmore).1.symm
    | cons x more =>
      obtain ⟨rfl, -⟩ := List.cons.inj hmore
      exact absurd rfl (hearlier e (by simp))

end

section

variable {ε : Type} {path : FilePath} {kept : Place ε (Option SuiteDocument)} {doc : SuiteDocument} {h : Host ε}

/-- A source at a path answers from a document: it read the document before, or will read it from the file. -/
def Serves (path : FilePath) (kept : Place ε (Option SuiteDocument)) (doc : SuiteDocument) (h : Host ε) : Prop :=
  ∃ text, read text = .ok doc ∧
    (kept.get h.outer = some doc ∨ kept.get h.outer = none ∧ h.files.readText path = .ok text)

theorem run_load_of_kept (held : kept.get h.outer = some doc) : (SuiteDocument.load path kept).run h = (.ok doc, h) := by
  unfold SuiteDocument.load
  rw [Act.run_bind, Act.run_get]
  simp only [held]
  rfl

theorem run_load_of_file {text : String} (fresh : kept.get h.outer = none) (hfile : h.files.readText path = .ok text)
    (hread : read text = .ok doc) :
    (SuiteDocument.load path kept).run h =
      (.ok doc, Host.note .info ("Loaded " ++ toString doc.length ++ " test cases from " ++ path.text)
        { h with outer := kept.set (some doc) h.outer }) := by
  have accepted : (h.files.readText path >>= read) = .ok doc := by rw [hfile]; exact hread
  unfold SuiteDocument.load
  rw [Act.run_bind, Act.run_get]
  simp only [fresh, accepted]
  rfl

theorem Serves.load (hkept : kept.Lawful) (serves : Serves path kept doc h) :
    ∃ after, (SuiteDocument.load path kept).run h = (.ok doc, after) ∧ Serves path kept doc after := by
  obtain ⟨text, hread, held | ⟨fresh, hfile⟩⟩ := serves
  · exact ⟨h, run_load_of_kept held, text, hread, .inl held⟩
  · exact ⟨_, run_load_of_file fresh hfile hread, text, hread, .inl (hkept (some doc) h.outer)⟩

variable {e : SuiteEntry}

theorem Serves.listActive (hkept : kept.Lawful) (serves : Serves path kept doc h) :
    ∃ after, (source path kept).listActive.run h = (.ok doc.activeCases, after) ∧ Serves path kept doc after := by
  obtain ⟨after, hload, serves⟩ := serves.load hkept
  refine ⟨after, ?_, serves⟩
  change Act.run (SuiteDocument.load path kept >>= _) h = _
  rw [Act.run_bind, hload]
  rfl

theorem Serves.loadKeywords (hkept : kept.Lawful) (serves : Serves path kept doc h) {testId : String}
    (found : doc.ofId? testId = some e) :
    ∃ after, ((source path kept).loadKeywords testId).run h = (.ok (keywordTexts e), after) ∧
      Serves path kept doc after := by
  obtain ⟨after, hload, serves⟩ := serves.load hkept
  refine ⟨after, ?_, serves⟩
  change Act.run (SuiteDocument.load path kept >>= _) h = _
  rw [Act.run_bind, hload]
  simp only [found]
  rfl

theorem Serves.loadInput (hkept : kept.Lawful) (serves : Serves path kept doc h) {testId : String}
    (found : doc.ofId? testId = some e) :
    ∃ input after, ((source path kept).loadInput testId).run h = (.ok input, after) ∧ e.Renders input ∧
      Serves path kept doc after := by
  obtain ⟨after, hload, serves⟩ := serves.load hkept
  have ⟨text, hread, _⟩ := serves
  obtain ⟨input, hinput, renders⟩ := SuiteEntry.inputTexts_renders (shows_of_mem hread (List.mem_of_find?_eq_some found))
  refine ⟨input, after, ?_, renders, serves⟩
  change Act.run (SuiteDocument.load path kept >>= _) h = _
  rw [Act.run_bind, hload]
  simp only [found]
  rw [Act.run_ofExcept, hinput]

/-- The loads of the case listed for an active entry are those of the first entry with its id: of the entry itself
unless an entry before it, active or not, has that id too. -/
theorem loads_are_of_first_entry (hkept : kept.Lawful) (serves : Serves path kept doc h)
    {before after : SuiteDocument} (listed : doc = before ++ e :: after) (active : e.execute = true) :
    ∃ first, doc.IsFirst e.testId first ∧ ((∀ other ∈ before, other.testId ≠ e.testId) → first = e) ∧
      (∃ h', (source path kept).listActive.run h =
          (.ok (activeCases before ++ e.descriptor :: activeCases after), h') ∧ Serves path kept doc h') ∧
      (∃ h', ((source path kept).loadKeywords e.descriptor.testId).run h =
          (.ok ((first.keywords.filter fun keyword => !Text.isBlankText keyword).map .text), h') ∧
        Serves path kept doc h') ∧
      ∃ input h', ((source path kept).loadInput e.descriptor.testId).run h = (.ok input, h') ∧
        first.Renders input ∧ Serves path kept doc h' := by
  obtain ⟨first, found, isFirst⟩ := exists_isFirst (show e ∈ doc by simp [listed])
  refine ⟨first, isFirst, isFirst.eq_of_others listed, ?_, serves.loadKeywords hkept found, serves.loadInput hkept found⟩
  have cases_eq : doc.activeCases = activeCases before ++ e.descriptor :: activeCases after := by
    simp [listed, activeCases, active]
  rw [← cases_eq]
  exact serves.listActive hkept

end

/-! ## Two entries of one identifier -/

section

/-- A place that is the whole of a state. -/
def wholePlace (τ : Type) : Place τ τ := ⟨id, fun t _ => t⟩

theorem lawful_wholePlace (τ : Type) : (wholePlace τ).Lawful := fun _ _ => rfl

def repeatedIdText : String :=
  "\x7b\"tests\":[\x7b\"test_id\":\"TC1\",\"keywords\":[\"A\"],\"execute\":\"N\",\"data\":\x7b\"k\":\"old\"\x7d\x7d," ++
  "\x7b\"test_id\":\"TC1\",\"keywords\":[\"B\"],\"data\":\x7b\"k\":\"new\"\x7d\x7d]\x7d"

def inactiveEntry : SuiteEntry := ⟨"TC1", "", "", none, false, ["A"], [("k", .text "old")]⟩

def activeEntry : SuiteEntry := ⟨"TC1", "", "", none, true, ["B"], [("k", .text "new")]⟩

def suitePath : FilePath := ⟨"", ["suite.json"]⟩

/-- A host on which a suite document is the only file. -/
def documentHost (text : String) : Host (Option SuiteDocument) where
  origin := ⟨⟨2024, 1, 1⟩, ⟨0, 0, 0, 0⟩, some 0⟩
  elapsed := 0.0
  files := ⟨[], [(["suite.json"], .file (.text text) 0.0)]⟩
  log := []
  outer := none

theorem plainLines_eq_self {cs : List Char} (h : '\r' ∉ cs) : Text.plainLines cs = cs := by
  induction cs with
  | nil => rfl
  | cons c rest ih =>
    obtain ⟨hc, hrest⟩ : '\r' ≠ c ∧ '\r' ∉ rest := by simpa using h
    rw [Text.plainLines, ih hrest]
    · exact fun _ same _ => hc same.symm
    · exact fun same => hc same.symm

theorem locate_documentHost (text : String) : (documentHost text).files.locate suitePath = .ok ["suite.json"] := by
  have name : suitePath.text = "suite.json" := by decide +kernel
  have whole : suitePath.text.contains '\x00' = false := by rw [name]; simp
  have short : ¬ Files.pathLimit < suitePath.text.utf8ByteSize := by decide +kernel
  simp only [Files.locate, whole, short, if_false]
  rfl

theorem readText_documentHost {text : String} (h : '\r' ∉ text.toList) :
    (documentHost text).files.readText suitePath = .ok text := by
  have found : (documentHost text).files.find suitePath = .ok (.file (.text text) 0.0) := by
    rw [Files.find, locate_documentHost]
    rfl
  unfold Files.readText
  rw [found]
  change Except.ok (String.ofList (Text.plainLines text.toList)) = _
  rw [plainLines_eq_self h, String.ofList_toList]

theorem serves_repeatedId :
    Serves suitePath (wholePlace _) [inactiveEntry, activeEntry] (documentHost repeatedIdText) :=
  ⟨repeatedIdText, by cbv, .inr ⟨rfl, readText_documentHost (by decide +kernel)⟩⟩

/-- With two entries of one identifier, the case of the later one runs the flow and data of the earlier. -/
theorem loads_of_repeated_id : ¬ ∀ (doc : SuiteDocument) (e : SuiteEntry) (h : Host (Option SuiteDocument)),
    Serves suitePath (wholePlace _) doc h → e ∈ doc → e.execute = true →
      (((source suitePath (wholePlace _)).loadKeywords e.descriptor.testId).run h).1 = .ok (keywordTexts e) ∧
      ∃ input, (((source suitePath (wholePlace _)).loadInput e.descriptor.testId).run h).1 = .ok input ∧
        e.Renders input := by
  intro own
  have found : ofId? [inactiveEntry, activeEntry] activeEntry.testId = some inactiveEntry := rfl
  obtain ⟨after, loaded, -⟩ := serves_repeatedId.loadKeywords (lawful_wholePlace _) found
  have claimed := (own _ activeEntry _ serves_repeatedId (by simp) rfl).1
  have same : Except.ok (keywordTexts inactiveEntry) = Except.ok (ε := Fault) (keywordTexts activeEntry) := by
    rw [← claimed]
    exact (congrArg Prod.fst loaded).symm
  have keywords : [Value.text "A"] = [Value.text "B"] := Except.ok.inj same
  simp at keywords

theorem loads_of_repeated_id_are_of_inactive :
    ∃ first, IsFirst [inactiveEntry, activeEntry] "TC1" first ∧
      ∃ h', ((source suitePath (wholePlace _)).loadKeywords "TC1").run (documentHost repeatedIdText) =
        (.ok (keywordTexts first), h') := by
  obtain ⟨first, isFirst, -, -, ⟨after, keywords, -⟩, -⟩ :=
    loads_are_of_first_entry (lawful_wholePlace _) serves_repeatedId
      (show [inactiveEntry, activeEntry] = [inactiveEntry] ++ activeEntry :: [] from rfl) rfl
  exact ⟨first, isFirst, after, keywords⟩

end

end SuiteDocument

end KeywordSuite
