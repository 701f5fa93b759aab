import KeywordSuite.CommandLine.Run
import KeywordSuite.Proofs.CommandLine.Startup
import KeywordSuite.Proofs.Course
import KeywordSuite.Proofs.Host.Files
import KeywordSuite.Proofs.Suite.Interruption

/-!
# What a run works with

Test definitions, sessions, the report and the mail are put together on a host from an engine, a mail server and
a way to wait. What these three may raise and how they let time pass says what all of it may.
-/

namespace KeywordSuite

theorem isInterrupt_of_isValue {fault : Fault} (h : fault.isValue = true) : fault.isInterrupt = false := by
  cases fault with
  | interrupt message => cases h
  | _ => rfl

theorem Fault.IsFile.isInterrupt {fault : Fault} (h : fault.IsFile) : fault.isInterrupt = false := by
  obtain ⟨kind, path, rfl⟩ := h
  cases kind <;> rfl

theorem ordinary_mapM {α β : Type} {f : α → Except Fault β} (h : ∀ a, Ordinary (f a)) : ∀ l : List α, Ordinary (l.mapM f)
  | [] => ordinary_ok []
  | a :: l => by
    rw [List.mapM_cons]
    exact ordinary_bind (h a) fun _ => ordinary_bind (ordinary_mapM h l) fun _ => ordinary_ok _

/-! ## Test definitions that are read -/

theorem ordinary_cellTextOrFault (v : Value) : Ordinary v.cellTextOrFault := ordinary_mapError _

theorem Files.ordinary_readText (files : Files) (path : FilePath) : Ordinary (files.readText path) := by
  unfold Files.readText
  split
  · rename_i fault _
    exact faulty_error (Fault.IsFile.isInterrupt ⟨fault, path, rfl⟩)
  · exact faulty_error rfl
  · rename_i content _ _
    cases content with
    | text s => exact ordinary_ok _
    | bytes bs =>
      have decodes : Ordinary (Text.decodeUtf8 bs) := fun fault ended =>
        isInterrupt_of_isValue (Settings.faulty_decodeUtf8 bs fault ended)
      exact ordinary_bind decodes fun _ => ordinary_ok _
    | workbook | archive | picture => exact faulty_error rfl

theorem Json.ordinary_read (text : String) : Ordinary (Json.read text) := by
  unfold Json.read
  cases Json.readDocument text.toList with
  | ok v => exact ordinary_ok v
  | error fault => cases fault <;> exact faulty_error rfl

namespace SuiteDocument

theorem ordinary_ofValue (v : Value) : Ordinary (ofValue v) := by
  unfold ofValue
  cases Read.model model ofEntries v with
  | valid d => exact ordinary_ok d
  | wrong issues => exact faulty_error rfl

theorem ordinary_loaded (files : Files) (path : FilePath) :
    Ordinary (((files.readText path) >>= read).mapError (loadFault path)) := by
  have reads : Ordinary (files.readText path >>= read) :=
    ordinary_bind (files.ordinary_readText path) fun text => ordinary_bind (Json.ordinary_read text) ordinary_ofValue
  intro fault ended
  cases loaded : files.readText path >>= read with
  | ok d =>
    rw [loaded] at ended
    cases ended
  | error other =>
    rw [loaded] at ended
    cases ended
    unfold loadFault
    split
    · rfl
    · exact reads other loaded

end SuiteDocument

theorem SuiteEntry.ordinary_inputTexts (e : SuiteEntry) : Ordinary e.inputTexts :=
  ordinary_bind (ordinary_mapM (fun _ => ordinary_bind (ordinary_cellTextOrFault _) fun _ => ordinary_ok _) _)
    fun _ => ordinary_ok _

namespace Workbook

theorem ordinary_table (rows : List (List Value)) : Ordinary (table rows) := by
  cases rows with
  | nil => exact ordinary_ok []
  | cons header rows =>
    refine ordinary_bind (ordinary_mapM (fun entry => ?_) _) fun headers => ?_
    · dsimp only
      split
      · exact ordinary_ok _
      · exact ordinary_cellTextOrFault _
    · refine ordinary_bind (ordinary_mapM (fun row => ?_) _) fun _ => ordinary_ok _
      refine ordinary_bind (ordinary_mapM (fun entry => ?_) _) fun _ => ordinary_ok _
      exact ordinary_bind (ordinary_cellTextOrFault _) fun _ => ordinary_ok _

end Workbook

/-! ## A mail that is written -/

theorem ordinary_durationText (seconds : Float) : Ordinary (durationText seconds) := by
  unfold durationText
  cases DoubleClass.ofFloat seconds with
  | nan => exact faulty_error rfl
  | infinite negative => exact faulty_error rfl
  | finite negative size => exact ordinary_ok _

theorem MailReporter.ordinary_bodyFor (settings : Settings) (r : MailReporter) (s : SuiteSummary) (now : Timestamp) : Ordinary (bodyFor settings r s now) := by
  have lasts : Ordinary s.durationSeconds := by
    unfold SuiteSummary.durationSeconds
    split
    · exact ordinary_ok _
    · split
      · exact ordinary_ok _
      · exact faulty_error rfl
  refine ordinary_bind lasts fun seconds => ordinary_bind (ordinary_durationText seconds) fun _ => ?_
  refine ordinary_bind (ordinary_mapM (fun result => ?_) _) fun _ => ordinary_ok _
  exact ordinary_bind (ordinary_durationText _) fun _ => ordinary_ok _

/-- Calls that close a part of a session. -/
def EngineCall.isClosing : EngineCall → Bool
  | .closePage | .closeContext | .closeBrowser | .stop => true
  | _ => false

/-! ## On a host -/

namespace Host

variable {ε : Type} {c : Course (Host ε)}

variable (c) in
/-- A course that leads wherever no time passes. -/
def Allows : Prop := ∀ h h' : Host ε, h'.elapsed = h.elapsed → c.leads h h'

variable (c) in
/-- A course that leads wherever no time passes and what lies further out is as before. -/
def AllowsInside : Prop := ∀ h h' : Host ε, h'.elapsed = h.elapsed → h'.outer = h.outer → c.leads h h'

theorem Allows.inside (still : Allows c) : AllowsInside c := fun h h' same _ => still h h' same

/-- The course on which no time passes. -/
def standing (ε : Type) : Course (Host ε) where
  ends _ := True
  leads h h' := h'.elapsed = h.elapsed
  ordinary _ := trivial
  refl _ := rfl
  trans first second := second.trans first

theorem allows_standing : Allows (standing ε) := fun _ _ same => same

section

variable (still : AllowsInside c)
include still

theorem keepsTo_logging (level : LogLevel) (message : String) : (logging (ε := ε) level message).KeepsTo c id :=
  Act.keepsTo_modify fun _ => still _ _ rfl rfl

theorem keepsTo_onFiles {f : Files → Except Fault Files} (raises : (onFiles (ε := ε) f).Raises Fault.IsFile) :
    (onFiles (ε := ε) f).KeepsTo c id := by
  intro h
  refine ⟨fun fault ended => c.ordinary (raises h fault ended).isInterrupt, ?_⟩
  rw [run_onFiles]
  cases f h.files <;> exact still _ _ rfl rfl

theorem keepsTo_makePath (path : FilePath) : (makePath (ε := ε) path).KeepsTo c id :=
  Act.keepsTo_get.bind fun _ => keepsTo_onFiles still (raises_onFiles fun _ _ => Files.makePath_isFile)

theorem keepsTo_writeFile (path : FilePath) (content : FileContent) : (writeFile (ε := ε) path content).KeepsTo c id := by
  refine fun h => ⟨fun fault ended => c.ordinary (raises_writeFile path content h fault ended).isInterrupt, ?_⟩
  rw [run_writeFile]
  cases h.files.write path content h.epochSeconds <;> exact still _ _ rfl rfl

end

variable (still : Allows c)
include still

theorem keepsTo_change {f : Host ε → Host ε} (same : ∀ h, (f h).elapsed = h.elapsed) :
    (modify f : Act (Host ε) PUnit).KeepsTo c id :=
  Act.keepsTo_modify fun h => still _ _ (same h)

theorem keepsTo_set {x y : Host ε} {α : Type} {rest : Act (Host ε) α} (h : rest.KeepsTo c id)
    (same : y.elapsed = x.elapsed) : Faulty c.ends ((set y >>= fun _ => rest : Act (Host ε) α).run x).1 ∧
      c.leads (id x) (id ((set y >>= fun _ => rest : Act (Host ε) α).run x).2) := by
  obtain ⟨ends, leads⟩ := h y
  exact ⟨ends, c.trans (still x y same) leads⟩

end Host

/-! ## Handing a mail over -/

namespace MailReporter

variable {ε : Type} {c : Course (Host ε)} (settings : Settings) (server : MailServer ε) (serves : ∀ call, (server call).KeepsTo c id)
include serves

theorem keepsTo_converse (m : MailMessage) : (converse settings server m).KeepsTo c id := by
  have sends : (do
      if settings.smtpUsername ≠ "" then server (.login settings.smtpUsername settings.smtpPassword)
      server (.send m) : Act (Host ε) Unit).KeepsTo c id := by
    split
    · exact (serves _).bind fun _ => serves _
    · exact serves _
  unfold converse
  cases settings.smtpUseTls with
  | true => exact (serves _).bind fun _ => sends
  | false => exact sends

theorem keepsTo_transmit (m : MailMessage) : (transmit settings server m).KeepsTo c id :=
  (serves _).bind fun _ => (keepsTo_converse settings server serves m).outcome_bind fun _ ends =>
    (serves _).bind fun _ => Act.keepsTo_ofExcept ends

theorem keepsTo_deliver (m : MailMessage) : (deliver settings server m).KeepsTo c id := by
  have hands {answer : Except Fault Unit → Act (Host ε) Unit} (sent : ∀ u, answer (.ok u) = pure ())
      (unsent : ∀ fault, answer (.error fault) = if fault.isSystem then
          throw (.suite (.delivery "smtp" (some settings.emailRecipients))
            ("Failed to send email report: " ++ fault.message) none [] (some fault))
        else throw fault) : ((transmit settings server m).attempt >>= answer).KeepsTo c id := by
    refine (keepsTo_transmit settings server serves m).attempt_bind fun r ordinary => ?_
    cases r with
    | ok u =>
      rw [sent]
      exact Act.keepsTo_pure ()
    | error fault =>
      rw [unsent]
      split
      · exact Act.keepsTo_throw rfl
      · exact Act.keepsTo_throw (ordinary fault rfl)
  unfold deliver
  dsimp only
  split
  · exact (Act.keepsTo_throw rfl).bind fun _ => hands (fun _ => rfl) fun _ => rfl
  · exact hands (fun _ => rfl) fun _ => rfl

end MailReporter

section

variable {ε : Type} {c : Course (Host ε)} (still : Host.Allows c)
include still

/-! ## Sources of test definitions -/

namespace SuiteDocument

variable (path : FilePath) (kept : Place ε (Option SuiteDocument))

theorem keepsTo_load : (load path kept).KeepsTo c id := by
  refine Act.keepsTo_update fun h => ?_
  split
  · exact Act.keepsTo_pure _ h
  · have loads := SuiteDocument.ordinary_loaded h.files path
    rw [Act.run_bind, Act.run_ofExcept]
    cases loaded : (h.files.readText path >>= read).mapError (loadFault path) with
    | error fault => exact ⟨faulty_error (c.ordinary (loads fault loaded)), c.refl h⟩
    | ok d => exact Host.keepsTo_set still ((Host.keepsTo_logging still.inside _ _).bind fun _ => Act.keepsTo_pure d) rfl

theorem keepsTo_listActive : (source path kept).listActive.KeepsTo c id :=
  (keepsTo_load still path kept).bind fun _ => Act.keepsTo_pure _

theorem keepsTo_loadInput (testId : String) : ((source path kept).loadInput testId).KeepsTo c id := by
  refine (keepsTo_load still path kept).bind fun d => ?_
  split
  · exact Act.keepsTo_ofExcept fun fault ended => c.ordinary (SuiteEntry.ordinary_inputTexts _ fault ended)
  · exact (Host.keepsTo_logging still.inside _ _).bind fun _ => Act.keepsTo_pure _

theorem keepsTo_loadKeywords (testId : String) : ((source path kept).loadKeywords testId).KeepsTo c id := by
  refine (keepsTo_load still path kept).bind fun d => ?_
  split
  · exact Act.keepsTo_pure _
  · exact (Host.keepsTo_logging still.inside _ _).bind fun _ => Act.keepsTo_pure _

end SuiteDocument

namespace Workbook

variable (shelf : Place ε SheetShelf)

theorem keepsTo_readSheet (path : FilePath) (sheet : String) : (readSheet (ε := ε) path sheet).KeepsTo c id := by
  refine Act.keepsTo_get.bind fun h => ?_
  split
  · exact Act.keepsTo_throw rfl
  · split
    · exact (Host.keepsTo_logging still.inside _ _).bind fun _ => Act.keepsTo_pure _
    · rename_i rows _
      have reads : (Act.ofExcept (table (evenRows rows)) : Act (Host ε) (List SheetRow)).KeepsTo c id :=
        Act.keepsTo_ofExcept fun fault ended => c.ordinary (ordinary_table _ fault ended)
      dsimp only
      split
      · exact (Host.keepsTo_logging still.inside _ _).bind fun _ => reads
      · exact reads

theorem keepsTo_sheetRows (path : FilePath) (sheet : String) : (sheetRows shelf path sheet).KeepsTo c id := by
  refine Act.keepsTo_get.bind fun h => ?_
  split
  · exact Act.keepsTo_pure _
  · exact (keepsTo_readSheet still path sheet).bind fun rows =>
      (Host.keepsTo_change still fun _ => by rfl).bind fun _ => Act.keepsTo_pure rows

theorem keepsTo_findRow (path : FilePath) (sheet testId : String) : (findRow shelf path sheet testId).KeepsTo c id :=
  (keepsTo_sheetRows still shelf path sheet).bind fun _ => Act.keepsTo_pure _

variable (paths : WorkbookPaths)

theorem keepsTo_listActive : (source shelf paths).listActive.KeepsTo c id :=
  (Host.keepsTo_logging still.inside _ _).bind fun _ => (keepsTo_sheetRows still shelf _ _).bind fun _ =>
    (Host.keepsTo_logging still.inside _ _).bind fun _ => Act.keepsTo_pure _

theorem keepsTo_loadInput (testId : String) : ((source shelf paths).loadInput testId).KeepsTo c id := by
  refine (keepsTo_findRow still shelf _ _ testId).bind fun found => ?_
  split
  · exact Act.keepsTo_pure _
  · exact (Host.keepsTo_logging still.inside _ _).bind fun _ => Act.keepsTo_pure _

theorem keepsTo_loadKeywords (testId : String) : ((source shelf paths).loadKeywords testId).KeepsTo c id := by
  refine (keepsTo_findRow still shelf _ _ testId).bind fun found => ?_
  split
  · exact (Host.keepsTo_logging still.inside _ _).bind fun _ => Act.keepsTo_pure _
  · exact (Host.keepsTo_logging still.inside _ _).bind fun _ => Act.keepsTo_pure _

end Workbook

/-! ## The report -/

namespace HtmlReport

variable (settings : Settings) (platform : Platform)

theorem keepsTo_finish (r : HtmlReport) : (finish (ε := ε) settings platform r).KeepsTo c id := by
  unfold finish
  split
  · exact (Host.keepsTo_logging still.inside _ _).bind fun _ => Act.keepsTo_pure none
  · refine Act.keepsTo_get.bind fun h => (Host.keepsTo_change still fun _ => by rfl).bind fun _ => ?_
    exact (Host.keepsTo_makePath still.inside _).bind fun _ => (Host.keepsTo_writeFile still.inside _ _).bind fun _ =>
      (Host.keepsTo_logging still.inside _ _).bind fun _ => Act.keepsTo_pure _

theorem keepsTo_receive (kept : Place ε HtmlReport) (call : ReportCall) :
    (receive settings platform kept call).KeepsTo c id := by
  refine Act.keepsTo_update fun h => Host.keepsTo_set still ?_ rfl
  split
  · exact (Host.keepsTo_logging still.inside _ _).bind fun _ => Act.keepsTo_pure none
  · exact keepsTo_finish still settings platform _
  · exact Act.keepsTo_pure none

end HtmlReport

end

/-! ## The mail -/

section

variable {ε : Type} {c : Course (Host ε)} (still : Host.AllowsInside c)
include still

namespace MailAttachment

variable (settings : Settings)

theorem keepsTo_latestReport : (latestReport (ε := ε) settings).KeepsTo c id := by
  refine Act.keepsTo_get.bind fun h => ?_
  have looks : Ordinary (h.files.isThere settings.reportsDir) := by
    unfold Files.isThere
    split
    · exact ordinary_ok true
    · exact faulty_error rfl
    · exact ordinary_ok false
  refine (Act.keepsTo_ofExcept fun fault ended => c.ordinary (looks fault ended)).bind fun there => ?_
  split
  · exact (Host.keepsTo_logging still _ _).bind fun _ => Act.keepsTo_pure none
  · dsimp only
    split
    · exact (Host.keepsTo_logging still _ _).bind fun _ => Act.keepsTo_pure none
    · exact Act.keepsTo_pure _

theorem keepsTo_archiveScreenshots : (archiveScreenshots (ε := ε) settings).KeepsTo c id := by
  refine Act.keepsTo_get.bind fun h => ?_
  split
  · exact Act.keepsTo_throw rfl
  · exact (Host.keepsTo_logging still _ _).bind fun _ => Act.keepsTo_pure none
  · exact Act.keepsTo_throw rfl
  · dsimp only
    split
    · exact (Host.keepsTo_logging still _ _).bind fun _ => Act.keepsTo_pure none
    · exact (Host.keepsTo_writeFile still _ _).bind fun _ =>
        (Host.keepsTo_logging still _ _).bind fun _ => Act.keepsTo_pure _

theorem keepsTo_ofFile (name : String) (path : FilePath) : (ofFile (ε := ε) name path).KeepsTo c id := by
  refine Act.keepsTo_get.bind fun h => ?_
  split
  · exact Act.keepsTo_throw (Fault.IsFile.isInterrupt ⟨_, path, rfl⟩)
  · exact Act.keepsTo_throw rfl
  · exact (Host.keepsTo_logging still _ _).bind fun _ => Act.keepsTo_pure _

theorem keepsTo_all : (all (ε := ε) settings).KeepsTo c id := by
  have files : ∀ (name : String) (paths : List FilePath), (paths.mapM (ofFile (ε := ε) name)).KeepsTo c id :=
    fun name => Act.keepsTo_mapM (keepsTo_ofFile still name)
  have attaches : ∀ (reports archives : String) (report archive : Option FilePath), (do
      let reports ← report.toList.mapM (ofFile (ε := ε) reports)
      let archives ← archive.toList.mapM (ofFile (ε := ε) archives)
      return reports ++ archives : Act (Host ε) (List MailAttachment)).KeepsTo c id := fun _ _ _ _ =>
    (files _ _).bind fun _ => (files _ _).bind fun _ => Act.keepsTo_pure _
  refine Act.keepsTo_get.bind fun h => (keepsTo_latestReport still settings).bind fun report => ?_
  refine (keepsTo_archiveScreenshots still settings).attempt_bind fun r ordinary => ?_
  cases r with
  | ok archive => exact attaches _ _ report archive
  | error fault =>
    dsimp only
    split
    · exact (Host.keepsTo_logging still _ _).bind fun _ => attaches _ _ report none
    · exact (Act.keepsTo_throw (ordinary fault rfl)).bind fun archive => attaches _ _ report archive

end MailAttachment

namespace MailReporter

variable (settings : Settings) (server : MailServer ε)

theorem keepsTo_message (r : MailReporter) (s : SuiteSummary) : (message (ε := ε) settings r s).KeepsTo c id := by
  refine Act.keepsTo_get.bind fun h => ?_
  refine (Act.keepsTo_ofExcept fun fault ended => c.ordinary (ordinary_bodyFor settings r s _ fault ended)).bind fun _ => ?_
  exact (MailAttachment.keepsTo_all still settings).bind fun _ => Act.keepsTo_pure _

variable (serves : ∀ call, (server call).KeepsTo c id)
include serves

theorem keepsTo_send (r : MailReporter) (s : SuiteSummary) : (send settings server r s).KeepsTo c id := by
  refine (Host.keepsTo_logging still _ _).bind fun _ => ?_
  have mails : (do deliver settings server (← message settings r s) : Act (Host ε) Unit).KeepsTo c id :=
    (keepsTo_message still settings r s).bind fun m => keepsTo_deliver settings server serves m
  refine mails.attempt_bind fun sent ordinary => ?_
  cases sent with
  | ok _ => exact (Host.keepsTo_logging still _ _).bind fun _ => Act.keepsTo_pure true
  | error fault =>
    dsimp only
    split
    · exact (Host.keepsTo_logging still _ _).bind fun _ => Act.keepsTo_pure false
    · split
      · exact (Host.keepsTo_logging still _ _).bind fun _ => Act.keepsTo_pure false
      · exact Act.keepsTo_throw (ordinary _ rfl)

end MailReporter

end

section

variable {ε : Type} {c : Course (Host ε)} (still : Host.Allows c)
include still

theorem MailReporter.keepsTo_listener (settings : Settings) (server : MailServer ε)
    (serves : ∀ call, (server call).KeepsTo c id) (kept : Place ε MailReporter) (news : SuiteNews) :
    ((listener settings server kept).tell news).KeepsTo c id := by
  cases news with
  | result result => exact Host.keepsTo_change still fun _ => rfl
  | finished s =>
    have concludes : (conclude settings server kept s).KeepsTo c id := by
      unfold conclude
      split
      · exact Act.keepsTo_get.bind fun h => (keepsTo_send still.inside settings server serves _ s).bind fun _ =>
          Host.keepsTo_change still fun _ => by rfl
      · exact Host.keepsTo_logging still.inside _ _
    exact concludes

/-! ## Sessions -/

namespace Piloted

theorem keepsTo_note (level : LogLevel) (message : String) : (note (ε := ε) level message).KeepsTo c Piloted.host :=
  (Host.keepsTo_logging still.inside level message).zoom fun _ _ => rfl

omit still in
theorem keepsTo_change (f : SessionParts → SessionParts) : (change (ε := ε) f).KeepsTo c Piloted.host :=
  Act.keepsTo_modify fun p => c.refl p.host

theorem keepsTo_noteAll : ∀ lines : List (LogLevel × String), (noteAll (ε := ε) lines).KeepsTo c Piloted.host
  | [] => Act.keepsTo_pure ()
  | (level, message) :: rest => (keepsTo_note still level message).bind fun _ => keepsTo_noteAll rest

variable {engine : Engine ε}

omit still in
theorem keepsTo_call {call : EngineCall} (calls : (engine call).KeepsTo c id) :
    (Piloted.call engine call).KeepsTo c Piloted.host :=
  calls.zoom fun _ _ => rfl

omit still in
theorem keepsTo_closePart {call : EngineCall} (calls : (engine call).KeepsTo c id) (isOpen : Bool) (label : String) :
    (closePart engine isOpen label call).KeepsTo c Piloted.host := by
  unfold closePart
  split
  · refine (keepsTo_call calls).attempt_bind fun r _ => ?_
    cases r <;> exact Act.keepsTo_pure _
  · exact Act.keepsTo_pure []

/-- Quitting makes only calls that close a part. -/
theorem keepsTo_quit (closes : ∀ call, EngineCall.isClosing call = true → (engine call).KeepsTo c id) :
    (quit engine).KeepsTo c Piloted.host := by
  refine Act.keepsTo_get.bind fun p => (keepsTo_closePart (closes _ rfl) _ _).bind fun page => ?_
  refine (keepsTo_closePart (closes _ rfl) _ _).bind fun context => (keepsTo_closePart (closes _ rfl) _ _).bind fun browser => ?_
  refine (keepsTo_change _).bind fun _ => (keepsTo_closePart (closes _ rfl) _ _).bind fun stop => ?_
  refine (keepsTo_change _).bind fun _ => ?_
  split
  · exact keepsTo_note still _ _
  · exact Act.keepsTo_throw rfl

variable (calls : ∀ call, (engine call).KeepsTo c id)
include calls

theorem keepsTo_start (config : SessionConfig) : (start engine config).KeepsTo c Piloted.host := by
  have call : ∀ call, (Piloted.call engine call).KeepsTo c Piloted.host := fun call => keepsTo_call (calls call)
  refine (keepsTo_noteAll still _).bind fun _ => (call _).bind fun _ => (keepsTo_change _).bind fun _ => ?_
  refine (keepsTo_note still _ _).bind fun _ => (call _).bind fun _ => (keepsTo_change _).bind fun _ => ?_
  refine (call _).bind fun _ => (keepsTo_change _).bind fun _ => (call _).bind fun _ => ?_
  exact (call _).bind fun _ => (call _).bind fun _ => keepsTo_change _

theorem keepsTo_create (config : SessionConfig) : (create engine config).KeepsTo c Piloted.host := by
  refine (keepsTo_start still calls config).attempt_bind fun r ordinary => ?_
  cases r with
  | ok _ => exact Act.keepsTo_pure ()
  | error fault =>
    have fails : (throw fault : Act (Piloted ε) Unit).KeepsTo c Piloted.host := Act.keepsTo_throw (ordinary fault rfl)
    refine (keepsTo_quit still fun call _ => calls call).attempt_bind fun left _ => ?_
    cases left with
    | ok _ => exact fails
    | error other => exact (keepsTo_note still _ _).bind fun _ => fails

/-- A session is created in place of what was there before. -/
theorem keepsTo_recreate (config : SessionConfig) : (do
    change fun _ => {}
    create engine config : Act (Piloted ε) Unit).KeepsTo c Piloted.host :=
  (keepsTo_change _).bind fun _ => keepsTo_create still calls config

omit still in
theorem keepsTo_onPage (call : EngineCall) : (onPage engine call).KeepsTo c Piloted.host := by
  refine Act.keepsTo_get.bind fun p => ?_
  split
  · exact keepsTo_call (calls call)
  · exact Act.keepsTo_throw rfl

theorem keepsTo_serve (call : SessionCall) : (serve engine call).KeepsTo c Piloted.host := by
  have onPage : ∀ call, (onPage engine call).KeepsTo c Piloted.host := keepsTo_onPage calls
  cases call with
  | navigate url =>
    refine (keepsTo_note still _ _).bind fun _ => Act.keepsTo_get.bind fun p => (onPage _).bind fun _ => ?_
    exact Act.keepsTo_get.bind fun p => keepsTo_note still _ _
  | click | fill | isEnabled | isChecked | title => exact onPage _
  | waitForState selector state =>
    show (waitForState engine selector state).KeepsTo c Piloted.host
    unfold waitForState
    split
    · exact onPage _
    · exact Act.keepsTo_throw rfl
  | saveScreenshot path => exact ((Host.keepsTo_makePath still.inside _).zoom fun _ _ => rfl).bind fun _ => onPage _
  | quit => exact keepsTo_quit still fun call _ => calls call

end Piloted

theorem SessionFleet.keepsTo_pilot {α : Type} (kept : Place ε SessionFleet) (session : SessionId)
    {act : Act (Piloted ε) α} (h : act.KeepsTo c Piloted.host) : (pilot kept session act).KeepsTo c id := by
  intro x
  obtain ⟨ends, leads⟩ := h ⟨(List.lookup session (kept.get x.outer)).getD {}, x⟩
  exact ⟨ends, c.trans leads (still _ _ rfl)⟩

end

/-! ## The surroundings -/

namespace Equipment

variable {ε : Type} (e : Equipment ε)

/-- Its engine, its mail server and its way to wait keep to a course. -/
structure KeepsTo (c : Course (Host ε)) : Prop where
  engine : ∀ call, (e.engine call).KeepsTo c id
  mailServer : ∀ call, (e.mailServer call).KeepsTo c id
  sleep : ∀ seconds, (e.sleep seconds).KeepsTo c id

variable {e} {c : Course (Host ε)} (still : Host.Allows c) (s : Settings) (o : CommandOptions)
include still

theorem keepsTo_listActive : (e.source s o).listActive.KeepsTo c id := by
  unfold source
  split
  · exact SuiteDocument.keepsTo_listActive still _ _
  · exact Workbook.keepsTo_listActive still _ _

theorem keepsTo_loadInput (testId : String) : ((e.source s o).loadInput testId).KeepsTo c id := by
  unfold source
  split
  · exact SuiteDocument.keepsTo_loadInput still _ _ testId
  · exact Workbook.keepsTo_loadInput still _ _ testId

theorem keepsTo_loadKeywords (testId : String) : ((e.source s o).loadKeywords testId).KeepsTo c id := by
  unfold source
  split
  · exact SuiteDocument.keepsTo_loadKeywords still _ _ testId
  · exact Workbook.keepsTo_loadKeywords still _ _ testId

theorem keepsTo_report (tell : ReportCall → Act (Host ε) (Option String)) (found : (e.surroundings s o).report = some tell)
    (call : ReportCall) : (tell call).KeepsTo c id := by
  obtain rfl := Option.some.inj found
  exact HtmlReport.keepsTo_receive still s e.platform e.html call

theorem keepsTo_listeners (serves : ∀ call, (e.mailServer call).KeepsTo c id) :
    ∀ l ∈ (e.surroundings s o).listeners, ∀ news, (l.tell news).KeepsTo c id := by
  intro l member news
  obtain rfl := List.mem_singleton.1 member
  exact MailReporter.keepsTo_listener still s e.mailServer serves e.reporter news

theorem keepsTo_createSession (calls : ∀ call, (e.engine call).KeepsTo c id) (session : SessionId) (config : SessionConfig) :
    ((e.surroundings s o).create session config).KeepsTo c id := by
  show (SessionFleet.pilot e.fleet session (do
    Piloted.change fun _ => {}
    Piloted.create e.engine config : Act (Piloted ε) Unit)).KeepsTo c id
  exact SessionFleet.keepsTo_pilot still e.fleet session (Piloted.keepsTo_recreate still calls config)

theorem KeepsTo.onCourse (h : e.KeepsTo c) : (e.surroundings s o).OnCourse c where
  log level message x := still x (x.note level message) rfl
  create := keepsTo_createSession still s o h.engine
  browse session call := SessionFleet.keepsTo_pilot still e.fleet session (Piloted.keepsTo_serve still h.engine call)
  sleep := h.sleep
  loadInput := keepsTo_loadInput still s o
  loadKeywords := keepsTo_loadKeywords still s o
  capture _ _ other := by cases other
  listeners := keepsTo_listeners still s o h.mailServer
  outside _ _ := Act.keepsTo_pure _
  closes _ never := by cases never

omit still in
/-- An engine, a mail server and a way to wait that raise ordinary faults only. -/
theorem uninterrupted (calls : ∀ call, (e.engine call).Ordinarily) (mails : ∀ call, (e.mailServer call).Ordinarily)
    (sleeps : ∀ seconds, (e.sleep seconds).Ordinarily) : (e.surroundings s o).Uninterrupted := by
  have still : Host.Allows (.calm (Host ε)) := fun _ _ _ => trivial
  have parts : e.KeepsTo (.calm (Host ε)) := ⟨fun call => Act.keepsTo_calm.2 (calls call),
    fun call => Act.keepsTo_calm.2 (mails call), fun seconds => Act.keepsTo_calm.2 (sleeps seconds)⟩
  exact (parts.onCourse still s o).uninterrupted (keepsTo_report still s o) rfl

omit still in
/-- An engine that may be interrupted, but not while it closes a part of a session. -/
theorem guarded (closes : ∀ call, EngineCall.isClosing call = true → (e.engine call).Ordinarily)
    (mails : ∀ call, (e.mailServer call).Ordinarily) : (e.surroundings s o).Guarded := by
  have still : Host.Allows (.calm (Host ε)) := fun _ _ _ => trivial
  constructor
  case quits =>
    intro session
    exact Act.keepsTo_calm.1 (SessionFleet.keepsTo_pilot still e.fleet session
      (Piloted.keepsTo_quit still fun call closing => Act.keepsTo_calm.2 (closes call closing)))
  case loadInput =>
    intro testId
    exact Act.keepsTo_calm.1 (keepsTo_loadInput still s o testId)
  case loadKeywords =>
    intro testId
    exact Act.keepsTo_calm.1 (keepsTo_loadKeywords still s o testId)
  case report =>
    intro tell found call
    exact Act.keepsTo_calm.1 (keepsTo_report still s o tell found call)
  case listeners =>
    intro l member news
    exact Act.keepsTo_calm.1 (keepsTo_listeners still s o (fun call => Act.keepsTo_calm.2 (mails call)) l member news)
  case closes => rfl

omit still in
theorem ordinarily_listActive : (e.source s o).listActive.Ordinarily :=
  Act.keepsTo_calm.1 (keepsTo_listActive (fun _ _ _ => trivial) s o)

/-! ## Where no time passes -/

section

omit still

variable {begun : World (Host ε)} (parts : e.KeepsTo (Host.standing ε))
include parts

theorem elapsed_later {w w' : World (Host ε)} (later : (e.surroundings s o).Later w w') :
    w'.outer.elapsed = w.outer.elapsed :=
  (parts.onCourse Host.allows_standing s o).later (keepsTo_report Host.allows_standing s o) later

theorem elapsed_startingWorld (cases : List CaseDescriptor) :
    ((e.surroundings s o).startingWorld cases begun).outer.elapsed = begun.outer.elapsed := by
  have opens : (e.surroundings s o).Later begun ((e.surroundings s o).listingWorld begun) :=
    Surroundings.Later.run _ (.step (.log _ _) .refl)
  have lists := (keepsTo_listActive (e := e) Host.allows_standing s o ((e.surroundings s o).listingWorld begun).outer).2
  exact lists.trans (elapsed_later s o parts opens)

/-- Parts that take no time leave the stopwatch where it stands. -/
theorem timed_of_standing (span : IsSpan (begun.outer.elapsed - begun.outer.elapsed)) :
    (e.surroundings s o).Timed begun := by
  intro w w' before later
  show IsSpan (w'.outer.elapsed - w.outer.elapsed)
  rw [elapsed_later s o parts later, elapsed_later s o parts before]
  exact span

end

end Equipment

end KeywordSuite
