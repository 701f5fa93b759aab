import KeywordSuite.Proofs.Fault.Checked
import KeywordSuite.Proofs.Host.Path
import KeywordSuite.Proofs.Text.Lower
import KeywordSuite.Settings.Basic

/-!
# Settings read again

Settings that were read satisfy what is declared of each field, and settings that do so are read from their own
entries as they are. Everything but the number of workers is settled here whatever that number is.
-/

namespace KeywordSuite

/-! ## Values that are read as they are -/

namespace Read

variable {read : Value → Checked String}

theorem intAtLeast_int {limit n : Int} (enough : limit ≤ n) : intAtLeast limit (.int n) = .valid n :=
  if_neg (by omega)

theorem le_of_intAtLeast {limit n : Int} {v : Value} (h : intAtLeast limit v = .valid n) : limit ≤ n := by
  unfold intAtLeast at h
  cases whole : int v with
  | wrong issues =>
    rw [whole] at h
    cases h
  | valid m =>
    rw [whole] at h
    simp only [Checked.andThen, Checked.complain] at h
    split at h
    · cases h
    · cases h
      omega

theorem between_of_intBetween {low high n : Int} {v : Value} (h : intBetween low high v = .valid n) :
    low ≤ n ∧ n ≤ high := by
  unfold intBetween at h
  cases least : intAtLeast low v with
  | wrong issues =>
    rw [least] at h
    cases h
  | valid m =>
    rw [least] at h
    simp only [Checked.andThen, Checked.complain] at h
    split at h
    · cases h
    · cases h
      exact ⟨le_of_intAtLeast least, by omega⟩

theorem intBetween_int {low high n : Int} (enough : low ≤ n) : intBetween low high (.int n) =
    if high < n then .complain (.above high) else .valid n := by
  rw [intBetween, intAtLeast_int enough]
  rfl

theorem list_texts (texts : List String) : list text (.list (texts.map .text)) = .valid texts := by
  refine each_valid ?_ 0
  rw [List.forall₂_map_left_iff]
  exact List.forall₂_same.2 fun s _ => rfl

theorem entries_texts : ∀ texts : Entries String,
    entries text (.dict (texts.map fun (name, s) => (name, .text s))) = .valid texts
  | [] => rfl
  | (name, s) :: rest => by
    have later : eachEntry text (rest.map fun (name, s) => (name, .text s)) = .valid rest := entries_texts rest
    change eachEntry text ((name, .text s) :: rest.map fun (name, s) => (name, .text s)) = _
    rw [eachEntry, later]
    rfl

theorem optional_text (s : Option String) : optional text (optionText s) = .valid s := by
  cases s <;> rfl

end Read

namespace Settings

variable {data : Entries Value} {s : Settings}

theorem browserName_browserName (s : String) : browserName (browserName s) = browserName s := by
  unfold browserName
  rw [Text.strip_lower_strip, Text.lower_lower]

theorem normalRecipients_normalRecipients (recipients : List String) :
    normalRecipients (normalRecipients recipients) = normalRecipients recipients := by
  have still : ((recipients.map Text.strip).filter (· ≠ "")).map Text.strip = (recipients.map Text.strip).filter (· ≠ "") := by
    refine (List.map_congr_left fun r held => ?_).trans (List.map_id _)
    obtain ⟨given, -, rfl⟩ := List.mem_map.1 (List.mem_of_mem_filter held)
    exact Text.strip_strip given
  unfold normalRecipients
  rw [still, List.filter_filter]
  simp

theorem readLevel_label (level : LogLevel) : readLevel (.text level.label) = .valid level := by
  have found : LogLevel.ofLabel? (Text.upper level.label) = some level := by
    cases level <;> decide +kernel
  unfold readLevel
  simp only [Read.text, Checked.andThen, found]

/-- What is declared of the fields of settings, but for the number of workers. -/
structure Sound (s : Settings) : Prop where
  browser : browserName s.browser = s.browser
  waits : 0 ≤ s.implicitWaitSeconds
  loads : 1 ≤ s.pageLoadTimeoutSeconds
  wide : 800 ≤ s.viewportWidth
  high : 600 ≤ s.viewportHeight
  books : s.excelDir.Lawful
  columns : 1 ≤ s.maxKeywordColumns
  reports : s.reportsDir.Lawful
  screenshots : s.screenshotsDir.Lawful
  port : 1 ≤ s.smtpPort ∧ s.smtpPort ≤ 65535
  recipients : normalRecipients s.emailRecipients = s.emailRecipients
  format : s.logFormat = "json" ∨ s.logFormat = "text"

theorem lower_of_readBrowser {v : Value} {name : String} (h : readBrowser v = .valid name) : browserName name = name := by
  obtain ⟨given, -, rfl⟩ := Checked.map_eq_valid.1 h
  exact browserName_browserName given

/-- What holds of the default and of whatever is read holds of a field. -/
theorem of_field {α : Type} {read : Value → Checked α} {name : String} {default a : α} {P : α → Prop}
    (h : field data name (some default) read = .valid a) (first : P default)
    (reads : ∀ v, read v = .valid a → P a) : P a := by
  rcases of_field_eq_valid h with ⟨v, -, given⟩ | ⟨-, same⟩
  · exact reads v given
  · cases same
    exact first

theorem lawful_of_readPath {v : Value} {p : FilePath} (h : readPath v = .valid p) : p.Lawful := by
  unfold readPath at h
  split at h
  · cases h
    exact FilePath.lawful_ofText _
  · cases h
    exact FilePath.lawful_ofText _
  · cases h

theorem known_of_readFormat {v : Value} {f : String} (h : readFormat v = .valid f) : f = "json" ∨ f = "text" := by
  unfold readFormat at h
  cases text : Read.text v with
  | wrong issues =>
    rw [text] at h
    cases h
  | valid given =>
    rw [text] at h
    simp only [Checked.andThen, Checked.complain] at h
    split at h
    · rename_i known
      cases h
      simpa using known
    · cases h

theorem sound_of_read (h : read data = .valid s) : s.Sound ∧ 1 ≤ s.parallelWorkers ∧ s.parallelWorkers ≤ 32 := by
  -- The fields are taken off the reading from the last to the first.
  unfold read at h
  iterate 2 obtain ⟨_, _, h, _, _⟩ := Checked.seq_eq_valid.1 h
  obtain ⟨_, _, h, format, _⟩ := Checked.seq_eq_valid.1 h
  iterate 2 obtain ⟨_, _, h, _, _⟩ := Checked.seq_eq_valid.1 h
  obtain ⟨_, _, h, recipients, _⟩ := Checked.seq_eq_valid.1 h
  iterate 3 obtain ⟨_, _, h, _, _⟩ := Checked.seq_eq_valid.1 h
  obtain ⟨_, _, h, port, _⟩ := Checked.seq_eq_valid.1 h
  iterate 5 obtain ⟨_, _, h, _, _⟩ := Checked.seq_eq_valid.1 h
  obtain ⟨_, _, h, screenshots, _⟩ := Checked.seq_eq_valid.1 h
  obtain ⟨_, _, h, reports, _⟩ := Checked.seq_eq_valid.1 h
  obtain ⟨_, _, h, _, _⟩ := Checked.seq_eq_valid.1 h
  obtain ⟨_, _, h, workers, _⟩ := Checked.seq_eq_valid.1 h
  obtain ⟨_, _, h, columns, _⟩ := Checked.seq_eq_valid.1 h
  iterate 3 obtain ⟨_, _, h, _, _⟩ := Checked.seq_eq_valid.1 h
  obtain ⟨_, _, h, books, _⟩ := Checked.seq_eq_valid.1 h
  iterate 2 obtain ⟨_, _, h, _, _⟩ := Checked.seq_eq_valid.1 h
  obtain ⟨_, _, h, high, _⟩ := Checked.seq_eq_valid.1 h
  obtain ⟨_, _, h, wide, _⟩ := Checked.seq_eq_valid.1 h
  obtain ⟨_, _, h, loads, _⟩ := Checked.seq_eq_valid.1 h
  obtain ⟨_, _, h, waits, _⟩ := Checked.seq_eq_valid.1 h
  iterate 2 obtain ⟨_, _, h, _, _⟩ := Checked.seq_eq_valid.1 h
  obtain ⟨_, browser, _⟩ := Checked.map_eq_valid.1 h
  subst_vars
  obtain ⟨given, -, rfl⟩ := Checked.map_eq_valid.1 recipients
  exact ⟨{
    browser := of_field (P := fun name => browserName name = name) browser (by decide +kernel) fun _ => lower_of_readBrowser
    waits := of_field waits (by decide) fun _ => Read.le_of_intAtLeast
    loads := of_field loads (by decide) fun _ => Read.le_of_intAtLeast
    wide := of_field wide (by decide) fun _ => Read.le_of_intAtLeast
    high := of_field high (by decide) fun _ => Read.le_of_intAtLeast
    books := of_field books (FilePath.lawful_ofText _) fun _ => lawful_of_readPath
    columns := of_field columns (by decide) fun _ => Read.le_of_intAtLeast
    reports := of_field reports (FilePath.lawful_ofText _) fun _ => lawful_of_readPath
    screenshots := of_field screenshots (FilePath.lawful_ofText _) fun _ => lawful_of_readPath
    port := of_field (P := fun n => 1 ≤ n ∧ n ≤ 65535) port (by decide) fun _ => Read.between_of_intBetween
    recipients := normalRecipients_normalRecipients given
    format := of_field (P := fun f => f = "json" ∨ f = "text") format (.inr rfl) fun _ => known_of_readFormat },
    of_field (P := fun n => 1 ≤ n ∧ n ≤ 32) workers (by decide) fun _ => Read.between_of_intBetween⟩

/-! ## Entries of settings -/

/-- The entries of settings are read as they are, once the number of workers is. -/
theorem Sound.read_toEntries (sound : s.Sound) : read s.toEntries =
    ((Read.intBetween 1 32 (.int s.parallelWorkers)).below (.name "parallel_workers")).map
      fun n => { s with parallelWorkers := n } := by
  have browser : readBrowser (.text s.browser) = .valid s.browser := congrArg Checked.valid sound.browser
  have path {p : FilePath} (lawful : p.Lawful) : readPath (.text p.text) = .valid p :=
    congrArg Checked.valid lawful.ofText_text
  have port : Read.intBetween 1 65535 (.int s.smtpPort) = .valid s.smtpPort := by
    rw [Read.intBetween_int sound.port.1, if_neg (by have := sound.port.2; omega)]
  have texts (items : List String) : readList (.list (items.map .text)) = .valid items := Read.list_texts items
  have format : readFormat (.text s.logFormat) = .valid s.logFormat := by
    rcases sound.format with same | same <;> rw [same] <;> rfl
  simp only [read, field, toEntries, Entries.get?_cons, String.reduceEq, ↓reduceIte, browser, path sound.books,
    path sound.reports, path sound.screenshots, port, texts, format, readLevel_label, Read.text, Read.bool,
    Read.intAtLeast_int sound.waits, Read.intAtLeast_int sound.loads, Read.intAtLeast_int sound.wide,
    Read.intAtLeast_int sound.high, Read.intAtLeast_int sound.columns, Read.entries_texts, Read.optional_text]
  have recipients : normalRecipients s.emailRecipients = s.emailRecipients := sound.recipients
  cases Read.intBetween 1 32 (.int s.parallelWorkers) with
  | wrong issues => rfl
  | valid n =>
    simp only [Checked.below, Checked.map]
    conv_rhs => rw [← recipients]
    rfl

theorem Sound.reread (sound : s.Sound) (positive : 1 ≤ s.parallelWorkers) (bounded : s.parallelWorkers ≤ 32) :
    read s.toEntries = .valid s := by
  rw [sound.read_toEntries, Read.intBetween_int positive, if_neg (by omega)]
  rfl

theorem Sound.reread_above (sound : s.Sound) (above : 32 < s.parallelWorkers) :
    read s.toEntries = .wrong [⟨[.name "parallel_workers"], .above 32⟩] := by
  rw [sound.read_toEntries, Read.intBetween_int (by omega), if_pos above]
  rfl

/-- Settings that were read are read again as they are. -/
theorem reread_of_read (h : read data = .valid s) : read s.toEntries = .valid s :=
  have ⟨sound, positive, bounded⟩ := sound_of_read h
  sound.reread positive bounded

end Settings

end KeywordSuite
