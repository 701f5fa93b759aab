import KeywordSuite.Proofs.Definition.Document
import KeywordSuite.Proofs.Host.Files

/-!
# Loading a suite document

A source of one document answers from the first document it could read, and asks the file again until then. What
cannot be read is a fault of the test definitions that names the path, except for bytes that are no text, a number
of too many digits and a path that no file has.
-/

namespace KeywordSuite

/-- What a source of test definitions is asked for. -/
inductive Inquiry
  | cases
  | keywords (testId : String)
  | input (testId : String)

@[reducible] def Inquiry.Answer : Inquiry → Type
  | .cases => List CaseDescriptor
  | .keywords _ => List Value
  | .input _ => Entries Value

def DefinitionSource.ask {ω : Type} (source : DefinitionSource ω) : (q : Inquiry) → Act ω q.Answer
  | .cases => source.listActive
  | .keywords testId => source.loadKeywords testId
  | .input testId => source.loadInput testId

/-! ## Contents that are no text -/

/-- Contents of a file that are not the bytes of a text. -/
def FileContent.IsNoText : FileContent → Prop
  | .text _ => False
  | .bytes bs => ∃ fault, Text.decodeFrom 0 0 bs = .error fault
  | .workbook _ | .archive _ | .picture => True

namespace Files

variable {f : Files} {path : FilePath}

theorem descend_ne_nameBroken : ∀ (names here : List String), f.descend here names ≠ .error .nameBroken
  | [], _ => fun h => by cases h
  | name :: rest, here => by
    unfold descend
    split
    · exact fun h => by cases h
    · exact fun h => by cases h
    · split
      · exact fun h => by cases h
      · exact descend_ne_nameBroken rest _

theorem find_nameBroken : f.find path = .error .nameBroken ↔ '\x00' ∈ path.text.toList := by
  have holds : path.text.contains '\x00' = true ↔ '\x00' ∈ path.text.toList := by
    rw [String.contains_char_eq]
    simp
  unfold find locate
  rw [← holds]
  by_cases broken : path.text.contains '\x00' = true
  · rw [if_pos broken]
    exact ⟨fun _ => broken, fun _ => rfl⟩
  · rw [if_neg broken]
    refine ⟨fun ended => ?_, fun held => absurd held broken⟩
    split at ended
    · cases ended
    · cases reached : f.descend (if path.isAbsolute then [] else f.working) path.parts with
      | error fault =>
        rw [reached] at ended
        cases ended
        exact absurd reached (descend_ne_nameBroken _ _)
      | ok names =>
        rw [reached] at ended
        dsimp only [bind, Except.bind] at ended
        split at ended <;> cases ended

theorem isText_of_readText {text : String} (h : f.readText path = .ok text) :
    ∃ content modified, f.find path = .ok (.file content modified) ∧ ¬ content.IsNoText := by
  unfold readText at h
  cases found : f.find path with
  | error kind => rw [found] at h; cases h
  | ok node =>
    rw [found] at h
    cases node with
    | directory made => cases h
    | file content modified =>
      refine ⟨content, modified, rfl, ?_⟩
      cases content with
      | text s => exact id
      | bytes bs =>
        rintro ⟨why, undecoded⟩
        dsimp only [Text.decodeUtf8] at h
        rw [undecoded] at h
        cases h
      | workbook book => cases h
      | archive names => cases h
      | picture => cases h

end Files

namespace SuiteDocument

/-- What is at a path, as a suite document. -/
def contents (path : FilePath) (files : Files) : Except Fault SuiteDocument := files.readText path >>= read

/-- What is at a path cannot be read for a reason that is not taken for one of the test definitions. -/
inductive Stray (path : FilePath) (files : Files) : Prop
  | unnameable : '\x00' ∈ path.text.toList → Stray path files
  | noText {content : FileContent} {modified : Float} :
      files.find path = .ok (.file content modified) → content.IsNoText → Stray path files
  | longNumber {text : String} {count : Nat} :
      files.readText path = .ok text → Json.readDocument text.toList = .error (.tooManyDigits count) → Stray path files

section

variable {path : FilePath} {files : Files} {fault : Fault} {text : String}

theorem isDefinitionFault_toFault (kind : FileFault) :
    isDefinitionFault (kind.toFault path) = false ↔ kind = .nameBroken := by
  cases kind <;> simp [FileFault.toFault, isDefinitionFault, Fault.isSystem, FaultKind.isSystem]

theorem stray_of_readText_error (failed : files.readText path = .error fault) :
    isDefinitionFault fault = false ↔ '\x00' ∈ path.text.toList ∨
      ∃ content modified, files.find path = .ok (.file content modified) ∧ content.IsNoText := by
  rw [← Files.find_nameBroken]
  unfold Files.readText at failed
  cases found : files.find path with
  | error kind =>
    rw [found] at failed
    cases failed
    rw [isDefinitionFault_toFault]
    simp
  | ok node =>
    rw [found] at failed
    cases node with
    | directory made =>
      cases failed
      simp [FileFault.toFault, isDefinitionFault, Fault.isSystem, FaultKind.isSystem]
    | file content modified =>
      cases content with
      | text s => cases failed
      | bytes bs =>
        have undecoded : ∃ why, Text.decodeFrom 0 0 bs = .error why ∧ fault = why.toFault := by
          dsimp only at failed
          unfold Text.decodeUtf8 at failed
          cases decoded : Text.decodeFrom 0 0 bs with
          | ok cs => rw [decoded] at failed; cases failed
          | error why => rw [decoded] at failed; cases failed; exact ⟨why, rfl, rfl⟩
        obtain ⟨why, decoded, rfl⟩ := undecoded
        exact ⟨fun _ => .inr ⟨_, _, rfl, why, decoded⟩, fun _ => rfl⟩
      | workbook book => cases failed; exact ⟨fun _ => .inr ⟨_, _, rfl, trivial⟩, fun _ => rfl⟩
      | archive names => cases failed; exact ⟨fun _ => .inr ⟨_, _, rfl, trivial⟩, fun _ => rfl⟩
      | picture => cases failed; exact ⟨fun _ => .inr ⟨_, _, rfl, trivial⟩, fun _ => rfl⟩

theorem stray_of_read_error (failed : read text = .error fault) :
    isDefinitionFault fault = false ↔ ∃ count, Json.readDocument text.toList = .error (.tooManyDigits count) := by
  unfold read Json.read at failed
  cases parsed : Json.readDocument text.toList with
  | error why =>
    rw [parsed] at failed
    cases failed
    cases why with
    | unexpected kind position => simp [JsonFault.toFault, isDefinitionFault]
    | tooManyDigits count => exact ⟨fun _ => ⟨count, rfl⟩, fun _ => rfl⟩
  | ok v =>
    rw [parsed] at failed
    have judged : ofValue v = .error fault := failed
    unfold ofValue at judged
    cases read : Read.model model ofEntries v with
    | valid d => rw [read] at judged; cases judged
    | wrong issues => rw [read] at judged; cases judged; simp [isDefinitionFault]

/-- A fault of loading is one of the test definitions unless the content is a stray one. -/
theorem stray_iff (failed : contents path files = .error fault) :
    isDefinitionFault fault = false ↔ Stray path files := by
  unfold contents at failed
  cases texted : files.readText path with
  | error other =>
    rw [texted] at failed
    cases failed
    rw [stray_of_readText_error texted]
    constructor
    · rintro (broken | ⟨content, modified, found, noText⟩)
      · exact .unnameable broken
      · exact .noText found noText
    · rintro (broken | ⟨found, noText⟩ | ⟨readable, _⟩)
      · exact .inl broken
      · exact .inr ⟨_, _, found, noText⟩
      · rw [texted] at readable
        cases readable
  | ok text =>
    rw [texted] at failed
    rw [stray_of_read_error failed]
    obtain ⟨content, modified, found, isText⟩ := Files.isText_of_readText texted
    constructor
    · rintro ⟨count, long⟩
      exact .longNumber texted long
    · rintro (broken | ⟨here, noText⟩ | ⟨readable, long⟩)
      · rw [Files.find_nameBroken.2 broken] at found
        cases found
      · rw [found] at here
        cases here
        exact absurd noText isText
      · rw [texted] at readable
        cases readable
        exact ⟨_, long⟩

end

/-! ## Answers -/

/-- What a document answers. -/
def Answers (doc : SuiteDocument) : (q : Inquiry) → q.Answer → Prop
  | .cases, cases => cases = doc.activeCases
  | .keywords testId, keywords => keywords = ((doc.ofId? testId).map keywordTexts).getD []
  | .input testId, input =>
    match doc.ofId? testId with
    | some e => e.Renders input
    | none => input = []

variable {ε : Type} {path : FilePath} {kept : Place ε (Option SuiteDocument)}

/-- What a source does once it has its document. -/
def answering : (q : Inquiry) → SuiteDocument → Act (Host ε) q.Answer
  | .cases, d => return d.activeCases
  | .keywords testId, d => do
    match d.ofId? testId with
    | some e => return keywordTexts e
    | none =>
      Host.logging .warning ("Test flow not found for test ID: " ++ testId)
      return []
  | .input testId, d => do
    match d.ofId? testId with
    | some e => Act.ofExcept e.inputTexts
    | none =>
      Host.logging .warning ("Test data not found for test ID: " ++ testId)
      return []

theorem ask_eq (q : Inquiry) : (source path kept).ask q = load path kept >>= answering q := by
  cases q <;> rfl

section

variable {h : Host ε} {doc : SuiteDocument} {fault : Fault}

/-- Once read from a text, a document answers whatever it is asked, and stays. -/
theorem run_answering {text : String} (accepted : read text = .ok doc) (q : Inquiry) (h : Host ε) :
    ∃ a h', (answering q doc).run h = (.ok a, h') ∧ doc.Answers q a ∧ h'.outer = h.outer := by
  cases q with
  | cases => exact ⟨doc.activeCases, h, rfl, rfl, rfl⟩
  | keywords testId =>
    cases found : doc.ofId? testId with
    | some e =>
      exact ⟨keywordTexts e, h, by simp only [answering, found]; rfl, by simp only [Answers, found]; rfl, rfl⟩
    | none =>
      exact ⟨[], h.note .warning ("Test flow not found for test ID: " ++ testId),
        by simp only [answering, found]; rfl, by simp only [Answers, found]; rfl, rfl⟩
  | input testId =>
    cases found : doc.ofId? testId with
    | some e =>
      obtain ⟨input, texts, renders⟩ :=
        SuiteEntry.inputTexts_renders (shows_of_mem accepted (List.mem_of_find?_eq_some found))
      exact ⟨input, h, by simp only [answering, found, texts]; rfl, by simp only [Answers, found]; exact renders, rfl⟩
    | none =>
      exact ⟨[], h.note .warning ("Test data not found for test ID: " ++ testId),
        by simp only [answering, found]; rfl, by simp only [Answers, found], rfl⟩

theorem Serves.ask (hkept : kept.Lawful) (serves : Serves path kept doc h) (q : Inquiry) :
    ∃ a h', ((source path kept).ask q).run h = (.ok a, h') ∧ doc.Answers q a ∧ kept.get h'.outer = some doc := by
  obtain ⟨text, accepted, known⟩ := serves
  obtain ⟨after, loaded, held⟩ : ∃ after, (SuiteDocument.load path kept).run h = (.ok doc, after) ∧ kept.get after.outer = some doc := by
    rcases known with held | ⟨fresh, here⟩
    · exact ⟨h, run_load_of_kept held, held⟩
    · exact ⟨_, run_load_of_file fresh here accepted, hkept (some doc) h.outer⟩
  obtain ⟨a, h', answered, right, same⟩ := run_answering accepted q after
  refine ⟨a, h', ?_, right, by rw [same, held]⟩
  rw [ask_eq, Act.run_bind, loaded]
  exact answered

theorem run_ask_of_error (fresh : kept.get h.outer = none) (failed : contents path h.files = .error fault)
    (q : Inquiry) : ((source path kept).ask q).run h = (.error (loadFault path fault), h) := by
  have loaded : (load path kept).run h = (.error (loadFault path fault), h) := by
    unfold load
    rw [Act.run_bind, Act.run_get]
    dsimp only
    rw [fresh]
    dsimp only
    unfold contents at failed
    rw [failed]
    rfl
  rw [ask_eq, Act.run_bind, loaded]

end

/-! ## A source over time -/

/-- Inquiries one after another; in between, whatever lies further out does as it likes but leaves the document. -/
inductive Later (path : FilePath) (kept : Place ε (Option SuiteDocument)) (start : Host ε) : Host ε → Prop
  | now : Later path kept start start
  | asked {h : Host ε} (q : Inquiry) : Later path kept start h → Later path kept start (((source path kept).ask q).run h).2
  | passed {h h' : Host ε} : Later path kept start h → kept.get h'.outer = kept.get h.outer → Later path kept start h'

section

variable {start h : Host ε} {doc : SuiteDocument}

theorem serves_of_contents (fresh : kept.get h.outer = none) (readable : contents path h.files = .ok doc) :
    Serves path kept doc h := by
  obtain ⟨text, texted, accepted⟩ := ok_of_bind readable
  exact ⟨text, accepted, .inr ⟨fresh, texted⟩⟩

/-- Whatever document a source has was read from a text. -/
theorem Later.exists_text (hkept : kept.Lawful) (new : kept.get start.outer = none) (later : Later path kept start h) :
    ∀ doc, kept.get h.outer = some doc → ∃ text, read text = .ok doc := by
  induction later with
  | now =>
    intro doc held
    rw [new] at held
    cases held
  | @asked h q _ ih =>
    intro doc held
    cases known : kept.get h.outer with
    | some first =>
      obtain ⟨text, accepted⟩ := ih first known
      obtain ⟨a, h', answered, -, stays⟩ := Serves.ask hkept ⟨text, accepted, .inl known⟩ q
      rw [answered, stays] at held
      cases held
      exact ⟨text, accepted⟩
    | none =>
      cases readable : contents path h.files with
      | ok first =>
        obtain ⟨a, h', answered, -, stays⟩ := (serves_of_contents known readable).ask hkept q
        rw [answered, stays] at held
        cases held
        obtain ⟨text, -, accepted⟩ := ok_of_bind readable
        exact ⟨text, accepted⟩
      | error fault =>
        rw [run_ask_of_error known readable, known] at held
        cases held
  | passed _ same ih =>
    intro doc held
    exact ih doc (same ▸ held)

end

/-! ## A document whose bytes are no text -/

/-- A host on which the only file is a byte that no text has. -/
def garbledHost : Host (Option SuiteDocument) :=
  { documentHost "" with files := ⟨[], [(["suite.json"], .file (.bytes [0xff]) 0.0)]⟩ }

theorem find_garbledHost : garbledHost.files.find suitePath = .ok (.file (.bytes [0xff]) 0.0) := by
  have located : garbledHost.files.locate suitePath = .ok ["suite.json"] := by
    rw [Files.locate_eq (by decide) (by decide)]
    rfl
  rw [Files.find, located]
  rfl

def garbledFault : Fault := Text.Utf8Fault.toFault ⟨0, 1, 0xff, "invalid start byte"⟩

theorem contents_garbledHost : contents suitePath garbledHost.files = .error garbledFault := by
  unfold contents Files.readText
  rw [find_garbledHost]
  rfl

theorem run_ask_garbledHost (q : Inquiry) :
    ((source suitePath (wholePlace _)).ask q).run garbledHost = (.error (loadFault suitePath garbledFault), garbledHost) :=
  run_ask_of_error rfl contents_garbledHost q

end SuiteDocument

end KeywordSuite
