import KeywordSuite.Proofs.Actions
import KeywordSuite.Proofs.Fault.Checked
import KeywordSuite.Proofs.Host.Files
import KeywordSuite.Proofs.Json.Reader
import KeywordSuite.Report.Html

/-!
# What a report shows of what it is told

Every text on the page of a report is traced back to the call or the setting it comes from. Messages and
details are masked on the way; ids, names, descriptions, captions and settings are shown as they are.
-/

namespace KeywordSuite

/-! ## The texts of a call -/

namespace ReportCall

/-- The texts of a call that are masked before they are kept. -/
def maskedTexts : ReportCall → List String
  | .log _ _ _ message => [message]
  | .finishCase _ _ _ details => [details]
  | _ => []

/-- The texts of a call that are kept as they are. -/
def plainTexts : ReportCall → List String
  | .beginCase testId testName description => [testId, testName, description]
  | .log _ testId testName _ | .finishCase _ testId testName _ => [testId, testName]
  | .attach testId testName _ caption => [testId, testName, caption]
  | .beginSuite | .endSuite => []

def paths : ReportCall → List String
  | .attach _ _ path _ => [path]
  | _ => []

def masked (mask : String → String) : ReportCall → ReportCall
  | .log level testId testName message => .log level testId testName (mask message)
  | .finishCase status testId testName details => .finishCase status testId testName (mask details)
  | call => call

end ReportCall

/-- A call on a report, with the working directory and the time it comes at. -/
structure Told where
  working : List String
  now : Timestamp
  call : ReportCall

def Told.masked (m : Told) : Told := { m with call := m.call.masked Sanitizer.standard.sanitizeString }

namespace HtmlReport

def after (settings : Settings) (told : List Told) : HtmlReport :=
  told.foldl (fun r m => update settings m.working m.now r m.call) {}

/-! ## Masked before or on the way -/

section

variable {settings : Settings} (on : settings.sanitizeLogs = true)
include on

theorem update_masked (r : HtmlReport) (m : Told) :
    update settings m.working m.now r m.call =
      update { settings with sanitizeLogs := false } m.working m.now r m.masked.call := by
  have masks : ∀ text, sanitize settings text = Sanitizer.standard.sanitizeString text := by
    intro text
    rw [sanitize, if_pos on]
  unfold Told.masked
  cases m.call with
  | log level testId testName message => simp only [update, masks]; rfl
  | finishCase status testId testName details => simp only [update, masks]; rfl
  | beginSuite | beginCase | attach | endSuite => rfl

theorem after_masked (told : List Told) :
    after settings told = after { settings with sanitizeLogs := false } (told.map Told.masked) := by
  unfold after
  rw [List.foldl_map]
  congr 1
  funext r m
  exact update_masked on r m

end

/-! ## The texts of a record -/

/-- Where a text in the record of a report comes from. -/
inductive Kept (settings : Settings) (told : List Told) : String → Prop
  | masked {m : Told} {text : String} (mem : m ∈ told) (held : text ∈ m.call.maskedTexts) :
      Kept settings told (Sanitizer.standard.sanitizeString text)
  | plain {m : Told} {text : String} (mem : m ∈ told) (held : text ∈ m.call.plainTexts) : Kept settings told text
  | link {m : Told} {path : String} (mem : m ∈ told) (held : path ∈ m.call.paths) :
      Kept settings told (linkTo settings m.working path)
  | time {m : Told} (mem : m ∈ told) : Kept settings told (clockTime m.now)
  | nothing : Kept settings told ""

end HtmlReport

/-- What holds of every text in a record. -/
structure ReportCase.All (P : String → Prop) (c : ReportCase) : Prop where
  testId : P c.testId
  testName : P c.testName
  description : P c.description
  details : P c.details
  entries : ∀ e ∈ c.entries, P e.time ∧ P e.message
  artifacts : ∀ a ∈ c.artifacts, P a.link ∧ P a.caption

theorem ReportCase.All.mono {P Q : String → Prop} {c : ReportCase} (h : c.All P) (weaker : ∀ x, P x → Q x) :
    c.All Q where
  testId := weaker _ h.testId
  testName := weaker _ h.testName
  description := weaker _ h.description
  details := weaker _ h.details
  entries e mem := (h.entries e mem).imp (weaker _) (weaker _)
  artifacts a mem := (h.artifacts a mem).imp (weaker _) (weaker _)

namespace ReportCases

def All (P : String → Prop) (cases : ReportCases) : Prop := ∀ entry ∈ cases, entry.2.All P

variable {P : String → Prop} {cases : ReportCases} {testId testName : String} (nothing : P "")
include nothing

theorem all_started {description : String} (named : P testId ∧ P testName) (described : P description) :
    ReportCase.All P { testId := testId, testName := testName, description := description } :=
  ⟨named.1, named.2, described, nothing, by simp, by simp⟩

theorem All.change (h : cases.All P) (named : P testId ∧ P testName) {f : ReportCase → ReportCase}
    (keeps : ∀ c, ReportCase.All P c → (f c).All P) : (cases.change testId testName f).All P := by
  refine Entries.forall_set (p := ReportCase.All P) h (keeps _ ?_)
  unfold record
  cases found : cases.get? testId with
  | some c => exact h _ (Entries.mem_of_get? found)
  | none => exact all_started nothing named nothing

end ReportCases

namespace HtmlReport

variable {settings : Settings} {told : List Told}

/-- One call keeps in the records only what comes from the calls told. -/
theorem kept_update (on : settings.sanitizeLogs = true) {m : Told} (mem : m ∈ told) {r : HtmlReport}
    (h : r.cases.All (Kept settings told)) :
    (update settings m.working m.now r m.call).cases.All (Kept settings told) := by
  have plain : ∀ text ∈ m.call.plainTexts, Kept settings told text := fun _ held => .plain mem held
  have masked : ∀ text ∈ m.call.maskedTexts, Kept settings told (sanitize settings text) := by
    intro text held
    rw [sanitize, if_pos on]
    exact .masked mem held
  have link : ∀ path ∈ m.call.paths, Kept settings told (linkTo settings m.working path) := fun _ held => .link mem held
  -- a call comes down to plain texts, masked texts and links, and each record takes it apart that way
  cases hc : m.call with
  | beginSuite => intro entry none; cases none
  | endSuite => exact h
  | beginCase testId testName description =>
    rw [hc] at plain
    have named : Kept settings told testId ∧ Kept settings told testName := by
      constructor <;> refine plain _ ?_ <;> simp [ReportCall.plainTexts]
    exact Entries.forall_set (p := ReportCase.All _) h
      (ReportCases.all_started .nothing named (plain description (by simp [ReportCall.plainTexts])))
  | log level testId testName message =>
    rw [hc] at plain masked
    have named : Kept settings told testId ∧ Kept settings told testName := by
      constructor <;> refine plain _ ?_ <;> simp [ReportCall.plainTexts]
    simp only [update, ReportCases.addEntry]
    refine h.change .nothing named fun c all => { all with entries := fun e held => ?_ }
    rcases List.mem_append.1 held with old | new
    · exact all.entries e old
    · rw [List.mem_singleton.1 new]
      exact ⟨.time mem, masked message (by simp [ReportCall.maskedTexts])⟩
  | attach testId testName path caption =>
    rw [hc] at plain link
    have named : Kept settings told testId ∧ Kept settings told testName := by
      constructor <;> refine plain _ ?_ <;> simp [ReportCall.plainTexts]
    simp only [update, ReportCases.addArtifact]
    refine h.change .nothing named fun c all => { all with artifacts := fun a held => ?_ }
    rcases List.mem_append.1 held with old | new
    · exact all.artifacts a old
    · rw [List.mem_singleton.1 new]
      exact ⟨link path (by simp [ReportCall.paths]), plain caption (by simp [ReportCall.plainTexts])⟩
  | finishCase status testId testName details =>
    rw [hc] at plain masked
    have named : Kept settings told testId ∧ Kept settings told testName := by
      constructor <;> refine plain _ ?_ <;> simp [ReportCall.plainTexts]
    simp only [update, ReportCases.finish]
    exact h.change .nothing named fun c all => { all with details := masked details (by simp [ReportCall.maskedTexts]) }

/-- So do all calls, one after the other. -/
theorem kept_after (on : settings.sanitizeLogs = true) (told : List Told) :
    (after settings told).cases.All (Kept settings told) := by
  suffices fold : ∀ (some : List Told) (r : HtmlReport), some ⊆ told → r.cases.All (Kept settings told) →
      (some.foldl (fun r m => update settings m.working m.now r m.call) r).cases.All (Kept settings told) from
    fold told {} (List.Subset.refl _) fun entry none => by cases none
  intro some
  induction some with
  | nil => exact fun r _ h => h
  | cons m some ih =>
    intro r sub h
    obtain ⟨mem, sub⟩ := List.cons_subset.1 sub
    exact ih _ sub (kept_update on mem h)

end HtmlReport

/-! ## The texts of a page -/

namespace Page

/-- What holds of every text that is inserted into a page. -/
def All (P : String → Prop) (page : Page) : Prop := ∀ x, .inserted x ∈ page → P x

variable {P : String → Prop} {page page' : Page}

theorem all_nil : All P [] ↔ True := by simp [All]

theorem all_markup (s : String) : All P (.markup s :: page) ↔ All P page := by simp [All]

theorem all_inserted (s : String) : All P (.inserted s :: page) ↔ P s ∧ All P page := by
  simp [All, or_imp, forall_and]

theorem all_append : All P (page ++ page') ↔ All P page ∧ All P page' := by
  simp [All, or_imp, forall_and]

theorem all_flatMap {α : Type} {items : List α} {part : α → Page} (h : ∀ a ∈ items, All P (part a)) :
    All P (items.flatMap part) := by
  intro x mem
  obtain ⟨a, held, mem⟩ := List.mem_flatMap.1 mem
  exact h a held x mem

end Page

namespace HtmlPage

/-- The words a page uses of its own. -/
def words : List String :=
  ["running", "passed", "failed", "RUNNING", "PASSED", "FAILED", "info", "warning", "INFO", "WARNING",
    "OS", "Python Version", "Browser", "Environment", "Base URL", "N/A", ""]

variable {P : String → Prop} (word : ∀ x ∈ words, P x)
include word

theorem word_mark (mark : CaseMark) : P mark.label ∧ P mark.upperLabel := by
  constructor <;> refine word _ ?_ <;> cases mark <;> simp [words, CaseMark.label, CaseMark.upperLabel]

theorem word_level (level : EntryLevel) : P level.label ∧ P level.upperLabel := by
  constructor <;> refine word _ ?_ <;> cases level <;> simp [words, EntryLevel.label, EntryLevel.upperLabel]

omit word in
theorem all_optionalPart {opening text : String} (h : P text) : Page.All P (optionalPart opening text) := by
  unfold optionalPart
  split
  · exact Page.all_nil.2 trivial
  · simpa only [Page.all_markup, Page.all_inserted, Page.all_nil, and_true] using h

theorem all_entryRow {e : ReportEntry} (h : P e.time ∧ P e.message) : Page.All P (entryRow e) := by
  obtain ⟨label, upper⟩ := word_level word e.level
  simp only [entryRow, Page.all_markup, Page.all_inserted, Page.all_nil]
  exact ⟨h.1, label, upper, h.2, trivial⟩

omit word in
theorem all_artifactPart {a : ReportArtifact} (h : P a.link ∧ P a.caption) : Page.All P (artifactPart a) := by
  simp only [artifactPart, Page.all_markup, Page.all_inserted, Page.all_nil]
  exact ⟨h.2, h.1, h.1, h.2, trivial⟩

theorem all_casePart {category : String} (categorized : P category) {c : ReportCase} (h : c.All P) :
    Page.All P (casePart category c) := by
  obtain ⟨label, upper⟩ := word_mark word c.mark
  simp only [casePart, Page.all_append, Page.all_markup, Page.all_inserted, Page.all_nil, and_true]
  exact ⟨⟨⟨⟨⟨label, h.testId, h.testName, categorized, label, upper⟩, all_optionalPart h.description⟩,
    Page.all_flatMap fun e mem => all_entryRow word (h.entries e mem)⟩,
    Page.all_flatMap fun a mem => all_artifactPart (h.artifacts a mem)⟩, all_optionalPart h.details⟩

omit word in
theorem all_metricsPart (cases : ReportCases) (count : ∀ n : Int, P (toString n)) :
    Page.All P (metricsPart cases) := by
  have counted : ∀ n : Nat, P (toString n) := fun n => count n
  simp only [metricsPart, metric, Page.all_append, Page.all_markup, Page.all_inserted, Page.all_nil, and_true,
    true_and]
  exact ⟨⟨⟨counted _, counted _⟩, counted _⟩, count _⟩

theorem all_page {h : ReportHeading} {cases : ReportCases} (count : ∀ n : Int, P (toString n))
    (named : P h.title ∧ P h.name ∧ P h.category) (timed : P h.startedAt ∧ P h.generatedAt)
    (rows : ∀ row ∈ h.environment, P row.1 ∧ P row.2) (kept : cases.All P) : Page.All P (page h cases) := by
  have shown : Page.All P (cases.list.flatMap (casePart h.category)) := by
    refine Page.all_flatMap fun c mem => all_casePart word named.2.2 ?_
    obtain ⟨entry, held, rfl⟩ := List.mem_map.1 mem
    exact kept entry held
  have tabled : Page.All P (h.environment.flatMap environmentRow) := by
    refine Page.all_flatMap fun row mem => ?_
    simpa only [environmentRow, Page.all_markup, Page.all_inserted, Page.all_nil, and_true] using rows row mem
  simp only [page, headPart, environmentPart, casesPart, footPart, Page.all_append, Page.all_markup,
    Page.all_inserted, Page.all_nil, and_true, true_and]
  exact ⟨⟨⟨⟨named.1, named.2.1, timed.1, timed.2⟩, all_metricsPart cases count⟩, tabled⟩, shown⟩

end HtmlPage

namespace HtmlReport

/-- Where a text on the page of a report comes from. -/
inductive Origin (settings : Settings) (p : Platform) (told : List Told) : String → Prop
  | kept {x : String} (h : Kept settings told x) : Origin settings p told x
  | setting {x : String} (h : x ∈ [settings.reportTitle, settings.reportName, settings.reportCategory,
      settings.browser, settings.environment]) : Origin settings p told x
  | baseUrl {x : String} (h : settings.baseUrl = some x) : Origin settings p told x
  | machine {x : String} (h : x ∈ [p.system, p.interpreter]) : Origin settings p told x
  | clock (t : Timestamp) : Origin settings p told t.secondText
  | count (n : Int) : Origin settings p told (toString n)
  | word {x : String} (h : x ∈ HtmlPage.words) : Origin settings p told x

def pageOf (settings : Settings) (p : Platform) (r : HtmlReport) (now : Timestamp) : Page :=
  HtmlPage.page (heading settings p r now) r.cases

variable {settings : Settings} {told : List Told}

theorem origin_of_page (on : settings.sanitizeLogs = true) (p : Platform) (told : List Told) (now : Timestamp) :
    Page.All (Origin settings p told) (pageOf settings p (after settings told) now) := by
  have word : ∀ x ∈ HtmlPage.words, Origin settings p told x := fun x => .word
  refine HtmlPage.all_page word .count ⟨?_, ?_, ?_⟩ ⟨?_, .clock now⟩ ?_ ?_
  · exact .setting (by simp [heading])
  · exact .setting (by simp [heading])
  · exact .setting (by simp [heading])
  · unfold heading
    cases (after settings told).startedAt with
    | none => exact word _ (by simp [HtmlPage.words])
    | some t => exact .clock t
  · intro row mem
    simp only [heading, environmentTable, List.mem_cons, List.not_mem_nil, or_false] at mem
    rcases mem with rfl | rfl | rfl | rfl | rfl <;> refine ⟨word _ (by simp [HtmlPage.words]), ?_⟩
    · exact .machine (by simp)
    · exact .machine (by simp)
    · exact .setting (by simp)
    · exact .setting (by simp)
    · dsimp only
      split
      · exact word _ (by simp [HtmlPage.words])
      · exact word _ (by simp [HtmlPage.words])
      · rename_i url _ found
        exact .baseUrl found
  · intro entry mem
    exact (kept_after on told entry mem).mono fun x => .kept

/-! ## Writing the page -/

section

variable {ε α β : Type}

/-- An action that leaves what lies outside the files, the clock and the log. -/
def KeepsOuter (act : Act (Host ε) α) : Prop := ∀ h, (act.run h).2.outer = h.outer

theorem KeepsOuter.bind {p : Act (Host ε) α} {f : α → Act (Host ε) β} (hp : KeepsOuter p)
    (hf : ∀ a, KeepsOuter (f a)) : KeepsOuter (p >>= f) := by
  intro h
  have before := hp h
  rw [Act.run_bind]
  cases hr : p.run h with
  | mk r h' =>
    rw [hr] at before
    cases r with
    | ok a => exact (hf a h').trans before
    | error fault => exact before

theorem keepsOuter_onFiles (f : Files → Except Fault Files) : KeepsOuter (Host.onFiles (ε := ε) f) := by
  intro h
  rw [Host.run_onFiles]
  cases f h.files <;> rfl

theorem keepsOuter_finish (settings : Settings) (p : Platform) (r : HtmlReport) :
    KeepsOuter (finish (ε := ε) settings p r) := by
  unfold finish
  cases r.path with
  | none => exact fun h => rfl
  | some path =>
    refine KeepsOuter.bind (fun _ => rfl) fun h => ?_
    refine KeepsOuter.bind (fun _ => rfl) fun _ => ?_
    refine KeepsOuter.bind (KeepsOuter.bind (fun _ => rfl) fun _ => keepsOuter_onFiles _) fun _ => ?_
    refine KeepsOuter.bind (KeepsOuter.bind (fun _ => rfl) fun _ => keepsOuter_onFiles _) fun _ => ?_
    exact KeepsOuter.bind (fun _ => rfl) fun _ _ => rfl

variable (settings : Settings) (p : Platform) {kept : Place ε HtmlReport}

/-- A call that is received brings the report that is kept up to date. -/
theorem receive_updates (lawful : ∀ r e, kept.get (kept.set r e) = r) (call : ReportCall) (h : Host ε) :
    kept.get ((receive settings p kept call).run h).2.outer =
      update settings h.files.working h.localNow (kept.get h.outer) call := by
  unfold receive
  rw [Act.run_bind, Act.run_get]
  dsimp only
  rw [Act.run_bind, Act.run_set]
  dsimp only
  have stored := lawful (update settings h.files.working h.localNow (kept.get h.outer) call) h.outer
  cases call with
  | endSuite =>
    dsimp only
    rw [keepsOuter_finish]
    exact stored
  | beginSuite | beginCase | log | attach | finishCase => exact stored

theorem exists_of_writeFile {path : FilePath} {content : FileContent} {h h' : Host ε}
    (writes : (Host.writeFile path content).run h = (.ok (), h')) :
    ∃ names, h.files.locate path = .ok names ∧ h'.files = h.files.put names (.file content h.epochSeconds) := by
  rw [Host.run_writeFile] at writes
  cases written : h.files.write path content h.epochSeconds with
  | error fault =>
    rw [written] at writes
    cases writes
  | ok files =>
    rw [written] at writes
    cases writes
    obtain ⟨names, -, located, -, put⟩ := Files.write_eq_ok written
    exact ⟨names, located, put⟩

/-- Where a report is written, it is written as one file that holds its page. -/
theorem finish_writes {r : HtmlReport} {h h' : Host ε} {file : String}
    (ends : (finish settings p r).run h = (.ok (some file), h')) :
    ∃ path names files made, r.path = some path ∧ file = path.text ∧ Files.locate files path = .ok names ∧
      h'.files = files.put names (.file (.text (Markup.render (pageOf settings p r h.localNow))) made) := by
  unfold finish at ends
  cases hp : r.path with
  | none => rw [hp] at ends; cases ends
  | some path =>
    rw [hp] at ends
    obtain ⟨_, _, got, ends⟩ := Act.exists_of_run_bind ends
    obtain ⟨_, _, noted, ends⟩ := Act.exists_of_run_bind ends
    obtain ⟨_, h₁, made, ends⟩ := Act.exists_of_run_bind ends
    obtain ⟨_, h₂, written, ends⟩ := Act.exists_of_run_bind ends
    obtain ⟨_, _, logged, ends⟩ := Act.exists_of_run_bind ends
    cases got
    cases logged
    cases ends
    obtain ⟨names, located, files⟩ := exists_of_writeFile written
    exact ⟨path, names, h₁.files, h₁.epochSeconds, rfl, rfl, located, files⟩

/-- The end of the suite finishes the report that is kept, once it is stored as it was. -/
theorem finish_of_endSuite {h h' : Host ε} {answer : Option String}
    (ends : (receive settings p kept .endSuite).run h = (.ok answer, h')) :
    (finish settings p (kept.get h.outer)).run { h with outer := kept.set (kept.get h.outer) h.outer } =
      (.ok answer, h') := by
  unfold receive at ends
  obtain ⟨_, _, got, ends⟩ := Act.exists_of_run_bind ends
  obtain ⟨_, _, stored, ends⟩ := Act.exists_of_run_bind ends
  cases got
  cases stored
  exact ends

/-- At the end of the suite the page of the report that is kept is written. -/
theorem endSuite_writes {h h' : Host ε} {file : String}
    (ends : (receive settings p kept .endSuite).run h = (.ok (some file), h')) :
    ∃ path names files made, (kept.get h.outer).path = some path ∧ file = path.text ∧
      Files.locate files path = .ok names ∧
      h'.files = files.put names (.file (.text (Markup.render (pageOf settings p (kept.get h.outer) h.localNow))) made) := by
  have written := finish_writes settings p (finish_of_endSuite settings p ends)
  exact written

/-- A report that has begun is written where it was said to be. -/
theorem finish_answers {r : HtmlReport} {path : FilePath} (place : r.path = some path) {h h' : Host ε}
    {answer : Option String} (ends : (finish settings p r).run h = (.ok answer, h')) : answer = some path.text := by
  unfold finish at ends
  rw [place] at ends
  obtain ⟨_, _, _, ends⟩ := Act.exists_of_run_bind ends
  obtain ⟨_, _, _, ends⟩ := Act.exists_of_run_bind ends
  obtain ⟨_, _, _, ends⟩ := Act.exists_of_run_bind ends
  obtain ⟨_, _, _, ends⟩ := Act.exists_of_run_bind ends
  obtain ⟨_, _, _, ends⟩ := Act.exists_of_run_bind ends
  cases ends
  rfl

/-- A report that has begun can be written where its directory is there and takes the file. -/
theorem exists_finish {r : HtmlReport} {path : FilePath} (place : r.path = some path) {h : Host ε} {made : Float}
    (there : h.files.find path.parent = .ok (.directory made)) (takes : h.files.Takes path) :
    ∃ h', (finish settings p r).run h = (.ok (some path.text), h') := by
  have makes : (Host.makePath path.parent).run (h.noteAll settings.baseUrlLines) =
      (.ok (), h.noteAll settings.baseUrlLines) := Host.run_makePath_of_directory there
  have noted : (h.noteAll settings.baseUrlLines).files.Takes path := takes
  obtain ⟨h', writes⟩ := Host.exists_writeFile noted (.text (text settings p r h.localNow))
  unfold finish
  rw [place]
  dsimp only
  rw [Act.run_bind, Act.run_get]
  dsimp only
  rw [Act.run_bind_of_ok (Act.run_modify _ _), Act.run_bind_of_ok makes, Act.run_bind_of_ok writes]
  exact ⟨_, rfl⟩

theorem exists_endSuite (kept : Place ε HtmlReport) {path : FilePath} {h : Host ε} {made : Float}
    (place : (kept.get h.outer).path = some path) (there : h.files.find path.parent = .ok (.directory made))
    (takes : h.files.Takes path) : ∃ h', (receive settings p kept .endSuite).run h = (.ok (some path.text), h') := by
  unfold receive
  rw [Act.run_bind, Act.run_get]
  dsimp only
  rw [Act.run_bind, Act.run_set]
  exact exists_finish settings p place there takes

/-! ## Reports that are kept -/

/-- A host on which a report was told some calls, while other things went on outside. -/
inductive Keeps (kept : Place ε HtmlReport) : List Told → Host ε → Prop
  | start {h : Host ε} (fresh : kept.get h.outer = {}) : Keeps kept [] h
  | receive {told : List Told} {h : Host ε} (call : ReportCall) (before : Keeps kept told h) :
      Keeps kept (told ++ [⟨h.files.working, h.localNow, call⟩]) ((receive settings p kept call).run h).2
  | outside {told : List Told} {h h' : Host ε} (before : Keeps kept told h)
      (same : kept.get h'.outer = kept.get h.outer) : Keeps kept told h'

variable {settings p}

theorem Keeps.kept_eq (lawful : ∀ r e, kept.get (kept.set r e) = r) {told : List Told} {h : Host ε}
    (keeps : Keeps settings p kept told h) : kept.get h.outer = after settings told := by
  induction keeps with
  | start fresh => exact fresh
  | receive call _ ih =>
    rw [receive_updates settings p lawful, ih]
    unfold after
    rw [List.foldl_append]
    rfl
  | outside _ same ih => exact same.trans ih

end

end HtmlReport

open HtmlReport

/--
With masking on, the page of a report is what a report without masking would show of the masked calls. On
it only messages and details are masked; every other text is shown as it was told or set. At the end of
the suite the file holds that page.
-/
theorem report_masks_messages {ε : Type} {settings : Settings} (on : settings.sanitizeLogs = true) {p : Platform}
    {kept : Place ε HtmlReport} (lawful : ∀ r e, kept.get (kept.set r e) = r) {told : List Told} {h : Host ε}
    (keeps : Keeps settings p kept told h) :
    let page := pageOf settings p (kept.get h.outer) h.localNow
    page = pageOf settings p (after { settings with sanitizeLogs := false } (told.map Told.masked)) h.localNow ∧
      Page.All (Origin settings p told) page ∧
      ∀ file h', (receive settings p kept .endSuite).run h = (.ok (some file), h') →
        ∃ path names files made, (kept.get h.outer).path = some path ∧ file = path.text ∧
          Files.locate files path = .ok names ∧
          h'.files = files.put names (.file (.text (Markup.render page)) made) := by
  intro page
  have told_eq := keeps.kept_eq lawful
  refine ⟨?_, ?_, fun file h' ends => ?_⟩
  · rw [← after_masked on, ← told_eq]
  · have shown := origin_of_page on p told h.localNow
    rwa [← told_eq] at shown
  · exact endSuite_writes settings p ends

/-! ## Texts that are on the page -/

section

variable {settings : Settings} {p : Platform} {r : HtmlReport} {now : Timestamp} {entry : String × ReportCase}
  (held : entry ∈ r.cases)
include held

theorem mem_page_of_case {x : Segment} (mem : x ∈ HtmlPage.casePart settings.reportCategory entry.2) :
    x ∈ pageOf settings p r now := by
  have shown : x ∈ HtmlPage.casesPart settings.reportCategory r.cases :=
    List.mem_append_right _ (List.mem_flatMap.2 ⟨entry.2, List.mem_map_of_mem held, mem⟩)
  exact List.mem_append_left _ (List.mem_append_right _ shown)

theorem message_mem_page {e : ReportEntry} (logged : e ∈ entry.2.entries) :
    .inserted e.message ∈ pageOf settings p r now := by
  have row : .inserted e.message ∈ entry.2.entries.flatMap HtmlPage.entryRow :=
    List.mem_flatMap.2 ⟨e, logged, by simp [HtmlPage.entryRow]⟩
  exact mem_page_of_case held (by simp only [HtmlPage.casePart, List.mem_append]; tauto)

theorem description_mem_page (given : entry.2.description ≠ "") :
    .inserted entry.2.description ∈ pageOf settings p r now := by
  have part : .inserted entry.2.description ∈ HtmlPage.optionalPart "<div>" entry.2.description := by
    simp [HtmlPage.optionalPart, given]
  exact mem_page_of_case held (by simp only [HtmlPage.casePart, List.mem_append]; tauto)

end

theorem Markup.infix_render {page : Page} {x : Segment} (mem : x ∈ page) :
    (renderSegment x).toList <:+: (render page).toList := by
  obtain ⟨before, after, rfl⟩ := List.append_of_mem mem
  refine ⟨(render before).toList, (render after).toList, ?_⟩
  simp [render]

theorem Settings.read_nothing : ∃ settings, Settings.read [] = .valid settings ∧ settings.sanitizeLogs = true :=
  ⟨_, rfl, rfl⟩

/-- A host that keeps nothing but a report. -/
def HtmlReport.alone : Place HtmlReport HtmlReport := ⟨id, fun r _ => r⟩

theorem report_masks_password : ∃ (settings : Settings) (told : List Told) (h : Host HtmlReport),
    Settings.read [] = .valid settings ∧ Keeps settings ⟨"", ""⟩ alone told h ∧
      told.map (·.call) = [.beginSuite, .log .info "T1" "Login" "password=hunter2"] ∧
      Page.All (Origin settings ⟨"", ""⟩ told) (pageOf settings ⟨"", ""⟩ h.outer h.localNow) ∧
      .inserted "password=********" ∈ pageOf settings ⟨"", ""⟩ h.outer h.localNow := by
  obtain ⟨settings, read, on⟩ := Settings.read_nothing
  have started : Keeps settings ⟨"", ""⟩ alone [] (.start default ["work"] {}) := .start rfl
  have keeps := (started.receive .beginSuite).receive (.log .info "T1" "Login" "password=hunter2")
  refine ⟨settings, _, _, read, keeps, rfl, (report_masks_messages on (fun _ _ => rfl) keeps).2.1, ?_⟩
  have masks : sanitize settings "password=hunter2" = "password=********" := by
    rw [sanitize, if_pos on]
    decide +kernel
  rw [← masks]
  let entry : ReportEntry := ⟨clockTime (Host.start default ["work"] ()).localNow, .info,
    sanitize settings "password=hunter2"⟩
  have held : ("T1", ⟨"T1", "Login", "", .running, "", [entry], []⟩) ∈
      (((receive settings ⟨"", ""⟩ alone (.log .info "T1" "Login" "password=hunter2")).run
        ((receive settings ⟨"", ""⟩ alone .beginSuite).run (.start default ["work"] {})).2).2.outer).cases :=
    List.mem_cons_self
  exact message_mem_page held List.mem_cons_self

/-- A description is shown as it was told, with what masking would have hidden. -/
theorem description_shown_unmasked :
    (¬ ∀ (settings : Settings) (p : Platform) (told : List Told) (now : Timestamp), settings.sanitizeLogs = true →
      ∀ m ∈ told, ∀ text ∈ m.call.plainTexts, .inserted text ∈ pageOf settings p (after settings told) now →
        Sanitizer.standard.sanitizeString text = text) ∧
    ¬ ∀ (settings : Settings) (p : Platform) (told : List Told) (now : Timestamp), settings.sanitizeLogs = true →
      ∀ m ∈ told, ∀ text ∈ m.call.plainTexts, Sanitizer.standard.sanitizeString text ≠ text →
        ¬ (Markup.escape text).toList <:+: (Markup.render (pageOf settings p (after settings told) now)).toList := by
  obtain ⟨settings, -, on⟩ := Settings.read_nothing
  have masks : Sanitizer.standard.sanitizeString "password=hunter2" ≠ "password=hunter2" := by decide +kernel
  let told : List Told := [⟨[], default, .beginSuite⟩, ⟨[], default, .beginCase "T1" "Login" "password=hunter2"⟩]
  have held : ("T1", ⟨"T1", "Login", "password=hunter2", .running, "", [], []⟩) ∈ (after settings told).cases :=
    List.mem_cons_self
  have shown : .inserted "password=hunter2" ∈ pageOf settings ⟨"", ""⟩ (after settings told) default :=
    description_mem_page held (by simp)
  constructor
  · intro claim
    exact masks (claim settings ⟨"", ""⟩ told default on _ (List.mem_cons_of_mem _ List.mem_cons_self) _
      (by simp [ReportCall.plainTexts]) shown)
  · intro claim
    exact claim settings ⟨"", ""⟩ told default on _ (List.mem_cons_of_mem _ List.mem_cons_self) _
      (by simp [ReportCall.plainTexts]) masks (Markup.infix_render shown)

end KeywordSuite
