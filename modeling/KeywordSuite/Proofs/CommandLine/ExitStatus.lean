import KeywordSuite.Proofs.CommandLine.Equipment

/-!
# The exit status of a run

A run whose settings are refused or whose test cases cannot be listed ends with the status for that. Otherwise
its status says whether every test case has passed, whatever fails on the way. A run of one worker that the user
interrupts ends with the status for that, and with every session closed.
-/

namespace KeywordSuite

variable {ε : Type}

/-! ## What the screen shows -/

theorem IsSpan.exists_text {seconds : Float} (h : IsSpan seconds) : ∃ text, durationText seconds = .ok text := by
  obtain ⟨-, negative, size, finite⟩ := h
  unfold durationText
  rw [finite]
  exact ⟨_, rfl⟩

namespace Notice

theorem exists_rows : ∀ {results : List CaseResult}, (∀ r ∈ results, IsSpan r.durationSeconds) →
    ∃ rows, results.mapM resultRow = .ok rows
  | [], _ => ⟨[], rfl⟩
  | r :: results, lasts => by
    obtain ⟨own, others⟩ := List.forall_mem_cons.1 lasts
    obtain ⟨text, shown⟩ := own.exists_text
    obtain ⟨rows, rest⟩ := exists_rows others
    have row : ∃ cells, resultRow r = .ok cells := by
      unfold resultRow CaseResult.durationDisplay
      rw [shown]
      exact ⟨_, rfl⟩
    obtain ⟨cells, row⟩ := row
    exact ⟨cells :: rows, by rw [List.mapM_cons, row, rest]; rfl⟩

theorem exists_summary {results : List CaseResult} (lasts : ∀ r ∈ results, IsSpan r.durationSeconds)
    (startedAt completedAt : Timestamp) (path : Option String) :
    ∃ shown, Notice.summary (.ofResults results startedAt completedAt) path = .ok shown := by
  obtain ⟨rows, all⟩ := exists_rows lasts
  unfold Notice.summary SuiteSummary.ofResults
  rw [all]
  exact ⟨_, rfl⟩

end Notice

theorem lasts_of_completes {cases : List CaseDescriptor} {results : List CaseResult}
    (h : List.Forall₂ CaseDescriptor.Completes cases results) : ∀ r ∈ results, IsSpan r.durationSeconds := by
  induction h with
  | nil => exact fun _ never => by cases never
  | cons own _ ih => exact List.forall_mem_cons.2 ⟨own.lasts, ih⟩

theorem allPassed_ofResults (results : List CaseResult) (startedAt completedAt : Timestamp) :
    (SuiteSummary.ofResults results startedAt completedAt).allPassed = results.all CaseResult.passed := by
  have most := results.countP_le_length (p := CaseResult.passed)
  rw [Bool.eq_iff_iff]
  unfold SuiteSummary.allPassed SuiteSummary.ofResults
  rw [decide_eq_true_eq, List.all_eq_true, ← List.countP_eq_length (p := CaseResult.passed)]
  dsimp only
  omega

/-! ## How a run ends -/

namespace Equipment

variable (e : Equipment ε)

/-- The plan of the suite that a run is for. -/
def plan (s : Settings) (o : CommandOptions) (keywords : KeywordRegistry) : SuitePlan :=
  ⟨keywords, s.resultMetadataKeys, (e.surroundings s o).listeners.map (·.name), s.parallelWorkers.toNat⟩

end Equipment

namespace CommandOptions

variable (e : Equipment ε) (environment : Entries String) (o : CommandOptions) (w : World (Host ε))

/-- A run gets as far as listing its test cases, in some world and with some outcome. -/
structure Lists (s : Settings) (keywords : KeywordRegistry) (begun : World (Host ε))
    (listed : Except Fault (List CaseDescriptor)) : Prop where
  ready : Ready environment o w.outer s keywords begun.outer
  sessions : begun.sessions = w.sessions
  lists : ((e.source s o).listActive.run ((e.surroundings s o).listingWorld begun).outer).1 = listed

/-- The test cases of a run and what the run of each comes to. -/
def ComesTo (schedule : List Nat) (cases : List CaseDescriptor) (outcomes : List (Except Fault CaseResult)) : Prop :=
  ∃ s keywords begun, Lists e environment o w s keywords begun (.ok cases) ∧
    outcomes = caseOutcomes (e.surroundings s o) (e.plan s o keywords) cases schedule
      ((e.surroundings s o).startingWorld cases begun)

variable {e environment o w} {s : Settings} {keywords : KeywordRegistry} {begun : World (Host ε)}

theorem Ready.vigilant {h h' : Host ε} (ready : Ready environment o h s keywords h') : keywords.Vigilant := by
  intro name entry found
  exact BrowserKeyword.vigilant_of_isBuiltIn (ready.builtIn name entry found)

theorem run_lists (schedule : List Nat) (shows : o.version = false) (runs : o.listKeywords = false)
    {listed : Except Fault (List CaseDescriptor)} (h : Lists e environment o w s keywords begun listed) :
    (o.run e schedule environment).run w = (o.runSuite e schedule s keywords).run begun := by
  have same : begun = { w with outer := begun.outer } := by rw [← h.sessions]
  rw [run_ready e schedule shows h.ready, if_neg (by rw [runs]; exact Bool.false_ne_true), ← same]

theorem run_runSuite (schedule : List Nat) {outcome : SuiteOutcome} {w₁ w₂ : World (Host ε)} {ended : Conclusion}
    (suite : (e.surroundings s o).runSuite (e.plan s o keywords) schedule begun = (outcome, w₁))
    (concludes : (conclude (e.surroundings s o).toSessionBackend outcome).run w₁ = (.ok ended, w₂)) :
    (o.runSuite e schedule s keywords).run begun = (.ok { ended with shown := .opening s :: ended.shown }, w₂) := by
  have first : (Act.make fun w => (Except.ok ((e.surroundings s o).runSuite (e.plan s o keywords) schedule w).1,
      ((e.surroundings s o).runSuite (e.plan s o keywords) schedule w).2) : Act (World (Host ε)) SuiteOutcome).run begun =
        (.ok outcome, w₁) := by
    show (Except.ok _, _) = _
    rw [suite]
  unfold runSuite
  refine (Act.run_bind_of_ok first).trans ?_
  exact Act.run_bind_of_ok concludes

/-! ## Each way to end -/

section

variable (schedule : List Nat) (shows : o.version = false) (runs : o.listKeywords = false)
include shows runs

/-- A run whose test cases cannot be listed ends with the status for that. -/
theorem run_unlisted (hs : (e.surroundings s o).Uninterrupted) {fault : Fault} (ordinary : fault.isInterrupt = false)
    (h : Lists e environment o w s keywords begun (.error fault)) : ∃ conclusion w',
    (o.run e schedule environment).run w = (.ok conclusion, w') ∧ conclusion.status = .startupError := by
  obtain ⟨path, w', suite⟩ := runSuite_unlisted schedule (e.plan s o keywords) hs h.lists ordinary
  have definition := Surroundings.isDefinition_listFault fault
  generalize Surroundings.listFault fault = refusal at definition suite
  have concludes : ∃ ended, (conclude (e.surroundings s o).toSessionBackend ⟨.error refusal, path⟩).run w' =
      (.ok ended, w') ∧ ended.status = .startupError := by
    unfold Fault.IsDefinition at definition
    split at definition
    · exact ⟨_, rfl, rfl⟩
    · cases definition
  obtain ⟨ended, concludes, status⟩ := concludes
  exact ⟨_, w', (run_lists schedule shows runs h).trans (run_runSuite schedule suite concludes), status⟩

variable {cases : List CaseDescriptor} (h : Lists e environment o w s keywords begun (.ok cases))
  (timed : (e.surroundings s o).Timed ((e.surroundings s o).startingWorld cases begun))
include h timed

/-- A run whose test cases are listed comes to a result for each, and its status says whether all have passed. -/
theorem run_listed (hs : (e.surroundings s o).Uninterrupted) : ∃ results conclusion w',
    (o.run e schedule environment).run w = (.ok conclusion, w') ∧
    caseOutcomes (e.surroundings s o) (e.plan s o keywords) cases schedule
      ((e.surroundings s o).startingWorld cases begun) = results.map .ok ∧
    List.Forall₂ CaseDescriptor.Completes cases results ∧
    conclusion.status = if results.all CaseResult.passed then .passed else .failed := by
  have vigilant : (e.plan s o keywords).registry.Vigilant := h.ready.vigilant
  obtain ⟨results, completedAt, path, w', suite, outcomes, completes⟩ :=
    runSuite_completes schedule vigilant timed h.lists hs
  obtain ⟨shown, table⟩ := Notice.exists_summary (lasts_of_completes completes)
    ((e.surroundings s o).now begun.outer) completedAt path
  let summary := SuiteSummary.ofResults results ((e.surroundings s o).now begun.outer) completedAt
  have concludes : (conclude (e.surroundings s o).toSessionBackend ⟨.ok summary, path⟩).run w' =
      (.ok ⟨if summary.allPassed then .passed else .failed, shown⟩, w') :=
    Act.run_bind_of_ok ((Act.run_ofExcept _ w').trans (by rw [table]))
  refine ⟨results, _, w', (run_lists schedule shows runs h).trans (run_runSuite schedule suite concludes), outcomes,
    completes, ?_⟩
  dsimp only
  rw [allPassed_ofResults]

/-- A run of one worker that is interrupted ends with the status for that, and no session is left. -/
theorem run_interrupted (hs : (e.surroundings s o).Guarded)
    (one : Surroundings.workerCount (e.plan s o keywords) cases.length ≤ 1)
    (broken : InterruptedAmong (e.surroundings s o) (e.plan s o keywords) cases
      ((e.surroundings s o).startingWorld cases begun)) : ∃ conclusion w',
    (o.run e schedule environment).run w = (.ok conclusion, w') ∧ conclusion.status = .interrupted ∧
      ∀ u, w'.sessions.live? u = none := by
  have vigilant : (e.plan s o keywords).registry.Vigilant := h.ready.vigilant
  obtain ⟨message, w₁, suite⟩ := runSuite_interrupted schedule vigilant timed h.lists hs one broken
  obtain ⟨w', closes, idle⟩ := SessionBackend.run_closeAll hs.closes hs.quits w₁
  have concludes : (conclude (e.surroundings s o).toSessionBackend ⟨.error (.interrupt message), none⟩).run w₁ =
      (.ok ⟨.interrupted, [.interrupted]⟩, w') := Act.run_bind_of_ok closes
  exact ⟨_, w', (run_lists schedule shows runs h).trans (run_runSuite schedule suite concludes), rfl, idle⟩

end

/-! ## The exit status -/

/-- Where all directories and the log can be made, a run is refused, or it lists its test cases or cannot. -/
theorem exists_lists (e : Equipment ε) (environment : Entries String) (o : CommandOptions) (w : World (Host ε))
    (free : ∀ fault, ¬ Barred environment o w.outer fault) :
    (∃ fault, Refused environment o w.outer fault) ∨
      ∃ s keywords begun listed, Lists e environment o w s keywords begun listed := by
  obtain refused | ⟨fault, barred⟩ | ⟨s, keywords, h', ready⟩ := exists_start environment o w.outer
  · exact .inl refused
  · exact absurd barred (free fault)
  · exact .inr ⟨s, keywords, { w with outer := h' }, _, ready, rfl, rfl⟩

theorem forall₂_passed {cases : List CaseDescriptor} {results : List CaseResult}
    (completes : List.Forall₂ CaseDescriptor.Completes cases results) : results.all CaseResult.passed = true ↔
      List.Forall₂ (fun d (r : Except Fault CaseResult) => ∃ result, r = .ok result ∧ d.Owns result ∧
        result.status = .passed) cases (results.map .ok) := by
  induction completes with
  | nil => exact ⟨fun _ => .nil, fun _ => rfl⟩
  | @cons d r cases results own _ ih =>
    rw [List.map_cons, List.forall₂_cons, List.all_cons, Bool.and_eq_true, ih]
    refine and_congr_left fun _ => ⟨fun passed => ⟨r, rfl, own.toOwns, eq_of_beq passed⟩, fun told => ?_⟩
    obtain ⟨result, same, -, passed⟩ := told
    cases same
    exact beq_iff_eq.2 passed

theorem exists_failed {results : List CaseResult} : results.all CaseResult.passed = false ↔
    ∃ result, (.ok result : Except Fault CaseResult) ∈ results.map .ok ∧ result.status = .failed := by
  rw [List.all_eq_false]
  constructor
  · intro found
    obtain ⟨r, member, failed⟩ := found
    refine ⟨r, List.mem_map_of_mem member, ?_⟩
    cases status : r.status with
    | passed => exact absurd (beq_iff_eq.2 status) failed
    | failed => rfl
  · intro found
    obtain ⟨r, member, failed⟩ := found
    obtain ⟨r', member, same⟩ := List.mem_map.1 member
    cases same
    exact ⟨r, member, fun passed => by cases failed.symm.trans (eq_of_beq passed)⟩

section

variable (schedule : List Nat) (shows : o.version = false) (runs : o.listKeywords = false)
  (free : ∀ fault, ¬ Barred environment o w.outer fault)
  (timed : ∀ s keywords begun cases, Lists e environment o w s keywords begun (.ok cases) →
    (e.surroundings s o).Timed ((e.surroundings s o).startingWorld cases begun))
  (hs : ∀ s, (e.surroundings s o).Uninterrupted)
include shows runs free timed hs

/-- Whatever fails on the way, a run comes to a conclusion, which says how far it got and what its test cases came to. -/
theorem exists_conclusion : ∃ conclusion w', (o.run e schedule environment).run w = (.ok conclusion, w') ∧
    ((∃ fault, Refused environment o w.outer fault) ∨ (∃ s keywords begun fault,
      Lists e environment o w s keywords begun (.error fault)) → conclusion.status = .startupError) ∧
    (∀ cases outcomes, ComesTo e environment o w schedule cases outcomes → ∃ results, outcomes = results.map .ok ∧
      List.Forall₂ CaseDescriptor.Completes cases results ∧
      conclusion.status = if results.all CaseResult.passed then .passed else .failed) ∧
    (((∃ fault, Refused environment o w.outer fault) ∨ ∃ s keywords begun fault,
      Lists e environment o w s keywords begun (.error fault)) ∨
        ∃ cases outcomes, ComesTo e environment o w schedule cases outcomes) := by
  have refuses : ∀ fault, Refused environment o w.outer fault → ∃ conclusion w',
      (o.run e schedule environment).run w = (.ok conclusion, w') ∧ conclusion.status = .startupError := by
    intro fault refused
    exact ⟨_, _, Prod.ext (run_refused e schedule shows refused) rfl, rfl⟩
  have unlisted : ∀ s keywords begun fault, Lists e environment o w s keywords begun (.error fault) → ∃ conclusion w',
      (o.run e schedule environment).run w = (.ok conclusion, w') ∧ conclusion.status = .startupError := by
    intro s keywords begun fault lists
    exact run_unlisted schedule shows runs (hs s) (Equipment.ordinarily_listActive s o _ fault lists.lists) lists
  have listed : ∀ cases outcomes, ComesTo e environment o w schedule cases outcomes → ∃ results conclusion w',
      (o.run e schedule environment).run w = (.ok conclusion, w') ∧ outcomes = results.map .ok ∧
        List.Forall₂ CaseDescriptor.Completes cases results ∧
        conclusion.status = if results.all CaseResult.passed then .passed else .failed := by
    intro cases outcomes comes
    obtain ⟨s, keywords, begun, lists, rfl⟩ := comes
    exact run_listed schedule shows runs lists (timed s keywords begun cases lists) (hs s)
  have gets : ((∃ fault, Refused environment o w.outer fault) ∨ ∃ s keywords begun fault,
      Lists e environment o w s keywords begun (.error fault)) ∨
        ∃ cases outcomes, ComesTo e environment o w schedule cases outcomes := by
    obtain refused | ⟨s, keywords, begun, fault | cases, lists⟩ := exists_lists e environment o w free
    · exact .inl (.inl refused)
    · exact .inl (.inr ⟨s, keywords, begun, fault, lists⟩)
    · exact .inr ⟨cases, _, s, keywords, begun, lists, rfl⟩
  have concludes : ∃ conclusion w', (o.run e schedule environment).run w = (.ok conclusion, w') := by
    obtain (⟨fault, refused⟩ | ⟨s, keywords, begun, fault, lists⟩) | ⟨cases, outcomes, comes⟩ := gets
    · obtain ⟨conclusion, w', ended, -⟩ := refuses fault refused
      exact ⟨conclusion, w', ended⟩
    · obtain ⟨conclusion, w', ended, -⟩ := unlisted s keywords begun fault lists
      exact ⟨conclusion, w', ended⟩
    · obtain ⟨_, conclusion, w', ended, -⟩ := listed cases outcomes comes
      exact ⟨conclusion, w', ended⟩
  obtain ⟨conclusion, w', ended⟩ := concludes
  -- A run has one conclusion, so what is known of some conclusion is known of this one.
  refine ⟨conclusion, w', ended, fun stopped => ?_, fun cases outcomes comes => ?_, gets⟩
  · obtain ⟨fault, refused⟩ | ⟨s, keywords, begun, fault, lists⟩ := stopped
    · obtain ⟨_, _, same, status⟩ := refuses fault refused
      cases ended.symm.trans same
      exact status
    · obtain ⟨_, _, same, status⟩ := unlisted s keywords begun fault lists
      cases ended.symm.trans same
      exact status
  · obtain ⟨results, _, _, same, outcome, completes, status⟩ := listed cases outcomes comes
    cases ended.symm.trans same
    exact ⟨results, outcome, completes, status⟩

end

end CommandOptions

/-! ## Two runs of one test case -/

section

open CommandOptions

/-- A working directory in which the directories for output are already made. -/
def Host.prepared : Host Unit := { Host.start default ["work"] () with
  files := ⟨["work"], [(["work"], .directory 0.0), (["work", "reports"], .directory 0.0),
    (["work", "reports", "screenshots"], .directory 0.0)]⟩ }

/-- Sheets that were read before: one test case that opens the browser. -/
def SheetShelf.opening : SheetShelf := [
  ("resources/excel/TestRunner.xlsx::TestCases", [[("TestID", "TC1"), ("Execute", "Y")]]),
  ("resources/excel/TestFlow.xlsx::TestFlow", [[("TestID", "TC1"), ("Keyword1", "OPEN_BROWSER")]]),
  ("resources/excel/TestData.xlsx::TestData", [])]

/-- An engine that can only be closed; everything else raises a fault. -/
def Equipment.refusing (fault : Fault) : Equipment Unit := { Equipment.idle with
  engine := fun
    | .closePage | .closeContext | .closeBrowser | .stop => pure ()
    | _ => throw fault
  shelf := ⟨fun _ => .opening, fun _ u => u⟩ }

theorem eq_ok_get {α : Type} {r : Except Fault α} (h : r.toOption.isSome = true) : r = .ok (r.toOption.get h) := by
  cases r with
  | ok a => rfl
  | error fault => cases h

theorem loads_defaults : (Settings.load [] [] none).toOption.isSome = true := by rfl

def Settings.defaults : Settings := (Settings.load [] [] none).toOption.get loads_defaults

theorem registers_defaults : (KeywordRegistry.empty.register (BrowserKeyword.provider .defaults)).toOption.isSome = true := by
  rfl

def KeywordRegistry.Registration.defaults : KeywordRegistry.Registration :=
  (KeywordRegistry.empty.register (BrowserKeyword.provider .defaults)).toOption.get registers_defaults

theorem find_prepared : Host.prepared.files.find Settings.defaults.reportsDir = .ok (.directory 0.0) ∧
    Host.prepared.files.find Settings.defaults.screenshotsDir = .ok (.directory 0.0) := by
  have reports : Host.prepared.files.locate Settings.defaults.reportsDir = .ok ["work", "reports"] := by
    rw [Files.locate_eq (by decide) (by decide)]
    rfl
  have screenshots : Host.prepared.files.locate Settings.defaults.screenshotsDir = .ok ["work", "reports", "screenshots"] := by
    rw [Files.locate_eq (by decide) (by decide)]
    rfl
  unfold Files.find
  rw [reports, screenshots]
  exact ⟨rfl, rfl⟩

theorem makeDirectories_prepared {h : Host Unit} (same : h.files = Host.prepared.files) :
    (Settings.defaults.makeDirectories).run h = (.ok (), h) := by
  obtain ⟨reports, screenshots⟩ := find_prepared
  rw [← same] at reports screenshots
  unfold Settings.makeDirectories
  rw [Act.run_bind_of_ok (Host.run_makePath_of_directory reports)]
  exact Host.run_makePath_of_directory screenshots

/-- The host on which the two runs begin. -/
def Host.begun : Host Unit :=
  Host.noteAll KeywordRegistry.Registration.defaults.lines (Host.prepared.note .info "KeyRunner logging initialized")

theorem ready_prepared : Ready [] {} Host.prepared Settings.defaults KeywordRegistry.Registration.defaults.registry Host.begun := by
  have environment : Settings.environmentText Host.prepared.files = .ok none := by
    have located : Host.prepared.files.locate Settings.environmentFile = .ok ["work", ".env"] := by
      rw [Files.locate_eq (by decide) (by decide)]
      rfl
    unfold Settings.environmentText Files.find
    rw [located]
    rfl
  have given : Settings.given [] Host.prepared.files = .ok Settings.defaults := by
    unfold Settings.given
    rw [environment]
    exact eq_ok_get loads_defaults
  have plain : Settings.defaults.logFile = none := by rfl
  refine ⟨⟨_, _, _, ⟨_, given, makeDirectories_prepared rfl, rfl⟩, setUpLog_of_plain plain _,
    makeDirectories_prepared rfl, ?_⟩, ?_⟩
  · unfold registry
    rw [eq_ok_get registers_defaults]
    rfl
  · obtain ⟨done, registered, builtIn⟩ := BrowserKeyword.exists_registration .defaults
    rw [eq_ok_get registers_defaults] at registered
    cases registered
    exact builtIn

section

variable (fault : Fault)

theorem closes_refusing : ∀ call, EngineCall.isClosing call = true → ((Equipment.refusing fault).engine call).Ordinarily := by
  intro call closing
  cases call with
  | closePage | closeContext | closeBrowser | stop => exact Act.ordinarily_pure ()
  | _ => cases closing

theorem standing_refusing : (Equipment.refusing fault).KeepsTo (Host.standing Unit) where
  engine call := by cases call <;> exact fun _ => ⟨fun _ _ => trivial, rfl⟩
  mailServer _ := Act.keepsTo_pure ()
  sleep _ := Act.keepsTo_pure ()

theorem isSpan_zero : IsSpan (0.0 - 0.0) := ⟨by decide, _, _, rfl⟩

variable {fault} {s : Settings} {keywords : KeywordRegistry} {begun : World (Host Unit)} {cases : List CaseDescriptor}

theorem timed_refusing (h : Lists (Equipment.refusing fault) [] {} ⟨.empty, .prepared⟩ s keywords begun (.ok cases)) :
    ((Equipment.refusing fault).surroundings s {}).Timed
      (((Equipment.refusing fault).surroundings s {}).startingWorld cases begun) := by
  obtain ⟨-, -, same⟩ := h.ready.unique ready_prepared
  refine Equipment.timed_of_standing s {} (standing_refusing fault) ?_
  rw [Equipment.elapsed_startingWorld s {} (standing_refusing fault), same]
  exact isSpan_zero

end

def openingCase : CaseDescriptor := { testId := "TC1", testName := "TC1" }

theorem lists_refusing (fault : Fault) : Lists (Equipment.refusing fault) [] {} ⟨.empty, .prepared⟩ .defaults
    KeywordRegistry.Registration.defaults.registry ⟨.empty, .begun⟩ (.ok [openingCase]) where
  ready := ready_prepared
  sessions := rfl
  lists := by rfl

theorem failed_refusing : (caseOutcomes ((Equipment.refusing (.plain .runtime "")).surroundings .defaults {})
    ((Equipment.refusing (.plain .runtime "")).plan .defaults {} KeywordRegistry.Registration.defaults.registry)
    [openingCase] [] (((Equipment.refusing (.plain .runtime "")).surroundings .defaults {}).startingWorld [openingCase]
      ⟨.empty, .begun⟩)).map (fun r => r.toOption.map (·.status)) = [some .failed] := by decide +kernel

theorem broken_refusing : isBroken ((((Equipment.refusing (.interrupt "")).surroundings .defaults {}).perform
    (openingCase.run ((Equipment.refusing (.interrupt "")).plan .defaults {} KeywordRegistry.Registration.defaults.registry)
      .calling)).run (((Equipment.refusing (.interrupt "")).surroundings .defaults {}).startingWorld [openingCase]
        ⟨.empty, .begun⟩)).1 = true := by decide +kernel

end

end KeywordSuite
