import KeywordSuite.CommandLine.Overrides
import KeywordSuite.Proofs.Json.Reader
import KeywordSuite.Proofs.Settings.Rereading

/-!
# Settings under a command line, read again

Each flag that is given takes the place of the settings it is about, and nothing else changes. The result is read
again as it is, unless more workers are asked for than settings may have: that limit is the one declared of a field
that no flag is held to.
-/

namespace KeywordSuite

/-! ## What a command line can give -/

/-- What a command line gives is what settings could be read from. -/
structure CommandOptions.Sound (o : CommandOptions) : Prop where
  browser : ∀ name ∈ o.browser, name ∈ browserChoices
  books : ∀ p ∈ o.excelDir, p.Lawful
  output : ∀ p ∈ o.output, p.Lawful

namespace CommandOptions

variable {o o' : CommandOptions}

theorem Sound.assign {flag : Flag} {text : String} (sound : o.Sound) (h : o.assign flag text = .ok o') : o'.Sound := by
  have ofText {p : FilePath} (held : p ∈ some (FilePath.ofText text)) : p.Lawful := by
    cases held
    exact FilePath.lawful_ofText text
  unfold CommandOptions.assign at h
  split at h
  · cases h
    exact ⟨sound.browser, fun _ => ofText, sound.output⟩
  · cases h
    exact ⟨sound.browser, sound.books, sound.output⟩
  · cases h
    exact ⟨sound.browser, sound.books, fun _ => ofText⟩
  · split at h
    · rename_i chosen
      cases h
      refine ⟨fun name held => ?_, sound.books, sound.output⟩
      cases held
      simpa using chosen
    · cases h
  · split at h
    · cases h
      exact ⟨sound.browser, sound.books, sound.output⟩
    · cases h
  all_goals
    cases h
    exact sound

theorem Sound.turnOn (sound : o.Sound) (flag : Flag) : (o.turnOn flag).Sound := by
  cases flag <;> exact ⟨sound.browser, sound.books, sound.output⟩

end CommandOptions

namespace CommandReading

variable {r r' : CommandReading}

theorem sound_of_assign {flag : Flag} {text : String} (sound : r.options.Sound) (h : r.assign flag text = .ok r') :
    r'.options.Sound := by
  unfold CommandReading.assign at h
  split at h
  · cases h
  · cases h
  · rename_i assigned _
    cases h
    exact sound.assign assigned

theorem sound_of_turnOn {flag : Flag} (sound : r.options.Sound) (h : r.turnOn flag = .ok r') : r'.options.Sound := by
  unfold CommandReading.turnOn at h
  split at h
  · cases h
  · cases h
    exact sound.turnOn flag

theorem sound_of_act {arguments : List Argument} (sound : r.options.Sound) (h : act arguments r = .ok r') :
    r'.options.Sound := by
  induction arguments, r using act.induct with
  | case1 r =>
    cases h
    exact sound
  | case2 _ _ _ ih | case3 _ _ _ ih | case4 _ _ ih => exact ih sound h
  | case5 => cases h
  | case6 f text rest r takes ih | case8 f text rest r takes ih =>
    rw [act, if_pos takes] at h
    obtain ⟨next, assigned, h⟩ := ok_of_bind h
    exact ih next (sound_of_assign sound assigned) h
  | case7 f text rest r unwanted =>
    rw [act, if_neg unwanted] at h
    cases h
  | case9 f text rest r single ih =>
    rw [act, if_neg single] at h
    obtain ⟨next, turned, h⟩ := ok_of_bind h
    exact ih next (sound_of_turnOn sound turned) h
  | case10 f rest r alone takes =>
    rw [act, if_pos takes] at h
    · cases h
    · exact alone
  | case11 f rest r alone single ih =>
    rw [act, if_neg single] at h
    · obtain ⟨next, turned, h⟩ := ok_of_bind h
      exact ih next (sound_of_turnOn sound turned) h
    · exact alone

end CommandReading

namespace CommandOptions

variable {o : CommandOptions}

theorem sound_of_read {arguments : List String} (h : read arguments = .ok o) : o.Sound := by
  obtain ⟨_, -, h⟩ := ok_of_bind h
  obtain ⟨r, acted, h⟩ := ok_of_bind h
  have bare : CommandOptions.Sound {} := ⟨by simp, by simp, by simp⟩
  have sound := CommandReading.sound_of_act bare acted
  split at h
  · cases h
    exact sound
  · cases h

/-! ## What a command line changes -/

/-- The setting of a name, where it is given. -/
def setting (name : String) : Option Value → Entries Value
  | some v => [(name, v)]
  | none => []

/-- The settings that the flags of a command line give. -/
def sets (o : CommandOptions) : Entries Value :=
  setting "excel_dir" (o.excelDir.map fun p => .text p.text) ++
  setting "browser" (o.browser.map .text) ++
  setting "headless" (if o.headless then some (.bool true) else none) ++
  setting "parallel_workers" (o.workers.map .int) ++
  setting "reports_dir" (o.output.map fun p => .text p.text) ++
  setting "screenshots_dir" (o.output.map fun p => .text (p.joinText "screenshots").text) ++
  setting "email_enabled" (if o.noEmail then some (.bool false) else none) ++
  setting "log_level" (if o.debug then some (.text "DEBUG") else none)

variable {s s' : Settings}

/-- One flag after another changes the setting it is about. -/
theorem toEntries_override (h : o.override s = .ok s') : s'.toEntries = s.toEntries.setAll o.sets := by
  have books (s : Settings) (p : Option FilePath) :
      s.toEntries.setAll (setting "excel_dir" (p.map fun p => .text p.text)) =
        Settings.toEntries { s with excelDir := p.getD s.excelDir } := by
    cases p <;> simp [setting, Entries.setAll, Settings.toEntries, Entries.set]
  have browser (s : Settings) (name : Option String) : s.toEntries.setAll (setting "browser" (name.map .text)) =
      Settings.toEntries { s with browser := name.getD s.browser } := by
    cases name <;> simp [setting, Entries.setAll, Settings.toEntries, Entries.set]
  have headless (s : Settings) (on : Bool) :
      s.toEntries.setAll (setting "headless" (if on then some (.bool true) else none)) =
        Settings.toEntries { s with headless := on || s.headless } := by
    cases on <;> simp [setting, Entries.setAll, Settings.toEntries, Entries.set]
  have workers (s : Settings) (n : Option Int) : s.toEntries.setAll (setting "parallel_workers" (n.map .int)) =
      Settings.toEntries { s with parallelWorkers := n.getD s.parallelWorkers } := by
    cases n <;> simp [setting, Entries.setAll, Settings.toEntries, Entries.set]
  have reports (s : Settings) (p : Option FilePath) :
      s.toEntries.setAll (setting "reports_dir" (p.map fun p => .text p.text)) =
        Settings.toEntries { s with reportsDir := p.getD s.reportsDir } := by
    cases p <;> simp [setting, Entries.setAll, Settings.toEntries, Entries.set]
  have screenshots (s : Settings) (p : Option FilePath) :
      s.toEntries.setAll (setting "screenshots_dir" (p.map fun p => .text (p.joinText "screenshots").text)) =
        Settings.toEntries { s with
          screenshotsDir := (p.map fun folder => folder.joinText "screenshots").getD s.screenshotsDir } := by
    cases p <;> simp [setting, Entries.setAll, Settings.toEntries, Entries.set]
  have mail (s : Settings) (off : Bool) :
      s.toEntries.setAll (setting "email_enabled" (if off then some (.bool false) else none)) =
        Settings.toEntries { s with emailEnabled := !off && s.emailEnabled } := by
    cases off <;> simp [setting, Entries.setAll, Settings.toEntries, Entries.set]
  have level (s : Settings) (debug : Bool) :
      s.toEntries.setAll (setting "log_level" (if debug then some (.text "DEBUG") else none)) =
        Settings.toEntries { s with logLevel := if debug then .debug else s.logLevel } := by
    cases debug <;> simp [setting, Entries.setAll, Settings.toEntries, Entries.set, LogLevel.label]
  have setAll_append (entries first second : Entries Value) :
      entries.setAll (first ++ second) = (entries.setAll first).setAll second := List.foldl_append
  -- the flags are about different settings, so each is set for itself
  unfold override at h
  split at h
  · cases h
  · cases h
    simp only [sets, setAll_append]
    rw [books, browser, headless, workers, reports, screenshots, mail, level]

theorem nodup_keys_sets (o : CommandOptions) : o.sets.keys.Nodup := by
  have single (name : String) (v : Option Value) : (setting name v).keys.Sublist [name] := by
    cases v
    · exact List.nil_sublist _
    · exact List.Sublist.refl _
  have names : (["excel_dir"] ++ ["browser"] ++ ["headless"] ++ ["parallel_workers"] ++ ["reports_dir"] ++
      ["screenshots_dir"] ++ ["email_enabled"] ++ ["log_level"]).Nodup := by decide +kernel
  refine names.sublist ?_
  simp only [sets, Entries.keys, List.map_append]
  exact (((((((single _ _).append (single _ _)).append (single _ _)).append (single _ _)).append (single _ _)).append
    (single _ _)).append (single _ _)).append (single _ _)

theorem Sound.override (sound : o.Sound) (settled : s.Sound) (h : o.override s = .ok s') : s'.Sound := by
  have chosen : ∀ name ∈ browserChoices, Settings.browserName name = name := by decide +kernel
  have path {given : Option FilePath} {own : FilePath} (lawful : ∀ p ∈ given, p.Lawful) (kept : own.Lawful) :
      (given.getD own).Lawful := by
    cases given with
    | none => exact kept
    | some p => exact lawful p rfl
  unfold CommandOptions.override at h
  split at h
  · cases h
  · cases h
    refine { settled with
      browser := ?_
      books := path sound.books settled.books
      reports := path sound.output settled.reports
      screenshots := path ?_ settled.screenshots }
    · cases given : o.browser with
      | none => exact settled.browser
      | some name => exact chosen name (sound.browser name given)
    · intro p held
      obtain ⟨folder, given, rfl⟩ := Option.map_eq_some_iff.1 held
      exact (sound.output folder given).join (FilePath.lawful_ofText "screenshots")

theorem workers_override (h : o.override s = .ok s') :
    s'.parallelWorkers = o.workers.getD s.parallelWorkers ∧ ∀ n ∈ o.workers, 1 ≤ n := by
  unfold override at h
  split at h
  · cases h
  · rename_i enough
    cases h
    refine ⟨rfl, fun n given => ?_⟩
    simp only [Option.any_eq_true, decide_eq_true_eq, not_exists, not_and] at enough
    have := enough n given
    omega

/-- A command line changes what its flags are about and nothing else; the outcome is read again as it is exactly if
it asks for no more workers than settings may have. -/
theorem overridden_settings_reread {data : Entries Value} {arguments : List String}
    (given : Settings.read data = .valid s) (parsed : read arguments = .ok o) (returned : o.override s = .ok s') :
    (∀ name, s'.toEntries.get? name = (o.sets.get? name).or (s.toEntries.get? name)) ∧
    1 ≤ s'.parallelWorkers ∧
    (s'.parallelWorkers ≤ 32 → Settings.read s'.toEntries = .valid s') ∧
    (32 < s'.parallelWorkers → o.workers = some s'.parallelWorkers ∧
      Settings.read s'.toEntries = .wrong [⟨[.name "parallel_workers"], .above 32⟩]) := by
  obtain ⟨settled, positive, bounded⟩ := Settings.sound_of_read given
  have sound := (sound_of_read parsed).override settled returned
  have more : 1 ≤ s'.parallelWorkers ∧ (32 < s'.parallelWorkers → o.workers = some s'.parallelWorkers) := by
    obtain ⟨workers, enough⟩ := workers_override returned
    cases asked : o.workers with
    | none =>
      have same : s'.parallelWorkers = s.parallelWorkers := by rw [workers, asked, Option.getD_none]
      exact ⟨by omega, fun above => by omega⟩
    | some n =>
      have same : s'.parallelWorkers = n := by rw [workers, asked, Option.getD_some]
      exact ⟨same ▸ enough n asked, fun _ => by rw [same]⟩
  refine ⟨fun name => ?_, more.1, sound.reread more.1, fun above => ⟨more.2 above, sound.reread_above above⟩⟩
  rw [toEntries_override returned, Entries.get?_setAll s.toEntries name o.sets o.nodup_keys_sets]

/-- Two flags change the default settings in two places, and the outcome is read again as it is. -/
theorem overridden_settings_four_workers : ∃ s o s', Settings.read [] = .valid s ∧
    read ["--browser=firefox", "--workers", "4"] = .ok o ∧ o.override s = .ok s' ∧
    s'.toEntries.get? "browser" = some (.text "firefox") ∧ s'.toEntries.get? "parallel_workers" = some (.int 4) ∧
    (∀ name, name ≠ "browser" → name ≠ "parallel_workers" → s'.toEntries.get? name = s.toEntries.get? name) ∧
    Settings.read s'.toEntries = .valid s' := by
  obtain ⟨s, given⟩ : ∃ s, Settings.read [] = .valid s := ⟨_, rfl⟩
  have parsed : read ["--browser=firefox", "--workers", "4"] =
      .ok { browser := some "firefox", workers := some 4 } := rfl
  obtain ⟨s', returned, four⟩ : ∃ s', override { browser := some "firefox", workers := some 4 } s = .ok s' ∧
      s'.parallelWorkers = 4 := ⟨_, rfl, rfl⟩
  obtain ⟨effect, -, reread, -⟩ := overridden_settings_reread given parsed returned
  have sets : sets { browser := some "firefox", workers := some 4 } =
      [("browser", .text "firefox"), ("parallel_workers", .int 4)] := rfl
  rw [sets] at effect
  refine ⟨s, _, s', given, parsed, returned, effect "browser", effect "parallel_workers", ?_, reread (by omega)⟩
  intro name other another
  rw [effect, Entries.get?_cons, if_neg other, Entries.get?_cons, if_neg another]
  rfl

/-- A hundred workers are let through, and the outcome is not one that settings may have. -/
theorem hundred_workers_not_reread : ∃ s o s', Settings.read [] = .valid s ∧ read ["--workers", "100"] = .ok o ∧
    o.override s = .ok s' ∧ s'.parallelWorkers = 100 ∧ ∀ t, Settings.read s'.toEntries ≠ .valid t := by
  obtain ⟨s, given⟩ : ∃ s, Settings.read [] = .valid s := ⟨_, rfl⟩
  obtain ⟨s', returned, hundred⟩ : ∃ s', override { workers := some 100 } s = .ok s' ∧ s'.parallelWorkers = 100 :=
    ⟨_, rfl, rfl⟩
  have bare : CommandOptions.Sound { workers := some 100 } := ⟨by simp, by simp, by simp⟩
  have sound := bare.override (Settings.sound_of_read given).1 returned
  refine ⟨s, _, s', given, rfl, returned, hundred, fun t reread => ?_⟩
  rw [sound.reread_above (by omega)] at reread
  cases reread

end CommandOptions

end KeywordSuite
