import KeywordSuite.Proofs.Case.Completion
import KeywordSuite.Proofs.Suite.Recording
import KeywordSuite.Proofs.Suite.Steps

/-!
# Sessions end with their test case

In a suite whose keywords deal well with sessions, on one unit or on many, whatever breaks or is
interrupted on the way: the test case that creates a session is the only one that uses it and quits
it exactly once, as the last thing that happens to it, before the test case comes to its outcome.
-/

namespace KeywordSuite

section

variable {ω : Type} {s : Surroundings ω} {plan : SuitePlan}
variable (hc : s.closeFault = none) (hq : ∀ n, (s.browse n .quit).Ordinarily)
  (hk : plan.registry.Courteous)
include hc hq hk

/--
The run of a suite has a history that accounts for every creation of a session and every call on
one. There each session has a whole life in one test case, and each test case comes to an outcome
with its session closed; if that is a failed result, the session that was open when the failure was
shown had its screenshot taken and then was quit.
-/
theorem sessions_end_with_their_case (schedule : List Nat) (outer : ω) :
    ∃ σ : Scene ω, Scene.Run s plan (.opening ⟨.empty, ⟨outer, []⟩⟩) σ ∧
      σ.world = (s.recorded.runSuite plan schedule ⟨.empty, ⟨outer, []⟩⟩).2 ∧
      σ.world.plain = (s.runSuite plan schedule ⟨.empty, outer⟩).2 ∧
      σ.world.outer.journal = σ.history.sessionLog.map Prod.snd ∧
      (∀ n, lifeOf n σ.history.sessionLog ≠ [] →
        ∃ place, IsWholeLife place n (lifeOf n σ.history.sessionLog)) ∧
      ∀ place, σ.history.Knows place →
        ∃ deeds r, σ.history.deeds place = deeds ++ [.ended r] ∧ Concluded s deeds r := by
  obtain ⟨σ, run, idle, world⟩ := run_runSuite (s := s) schedule ⟨.empty, ⟨outer, []⟩⟩
  have tidy : Tidy s σ := tidy_run hc hq hk (tidy_opening s outer) run
  refine ⟨σ, run, world, ?_, tidy.journal, ?_, ?_⟩
  · have plain := runSuite_recorded s plan schedule ⟨.empty, ⟨outer, []⟩⟩
    rw [← world] at plain
    exact (congrArg Prod.snd plain).symm
  · intro n born
    rcases tidy.lives.lived n born with ⟨u, live⟩ | whole
    · rw [tidy.live_eq_none (idle u)] at live
      cases live
    · exact whole
  · intro place known
    rcases tidy.concluded place known with ⟨u, x, busy, -⟩ | concluded
    · rw [idle u] at busy
      cases busy
    · exact concluded

end

/-! ## Two workers and a browser that breaks -/

deriving instance Inhabited for FilePath
deriving instance Inhabited for LogLevel
deriving instance Inhabited for Settings

/-- Two test cases; sessions can be created and quit, but everything else on them fails. -/
def Surroundings.brittle : Surroundings Unit where
  toSessionBackend := { (adverse []).toSessionBackend with
    create := fun _ _ => pure ()
    browse := fun _ _ => throw (.plain .runtime "browser is gone") }
  now := (adverse []).now
  localNow := (adverse []).localNow
  stopwatch := (adverse []).stopwatch
  sleep := (adverse []).sleep
  source := ⟨return [{ testId := "TC1", testName := "First" }, { testId := "TC2", testName := "Second" }],
    fun _ => return [("Element", .text "#go")],
    fun _ => return [.text "open_browser", .text "reopen", .text "click"]⟩
  report := none
  capture := .screenshots (.ofText "shots")
  listeners := []
  outside := (adverse []).outside

/-- Keywords that drive the browser, and one that uses the session registry itself. -/
def KeywordRegistry.reopening : KeywordRegistry :=
  ⟨[("OPEN_BROWSER", ⟨"OPEN_BROWSER", BrowserKeyword.openBrowser default, true, "", "Browser"⟩),
    ("REOPEN", ⟨"REOPEN", fun id => do
      KeywordProcedure.shared (.closeSession id.unit)
      let _ ← KeywordProcedure.shared (.openSession none id.unit)
      return .bool true, true, "", "Reopening"⟩),
    ("CLICK", ⟨"CLICK", BrowserKeyword.click, true, "", "Browser"⟩)]⟩

theorem KeywordRegistry.courteous_reopening : reopening.Courteous := by
  intro name e h id
  obtain ⟨key, he⟩ := mem_of_resolve? h
  simp only [reopening, List.mem_cons, List.not_mem_nil, or_false, Prod.mk.injEq] at he
  rcases he with ⟨-, rfl⟩ | ⟨-, rfl⟩ | ⟨-, rfl⟩
  · exact courteous_of_isBuiltIn ⟨default, _, List.mem_cons_self, rfl⟩ id
  · refine .act (.shared (.closeSession id.unit)) (modest_of_unit rfl) fun closed => ?_
    cases closed with
    | error fault => exact .done _
    | ok _ =>
      refine .act (.shared (.openSession none id.unit)) (modest_of_unit rfl) fun opened => ?_
      cases opened <;> exact .done _
  · have declared : ⟨"CLICK", some BrowserKeyword.click, true, "Click Element"⟩ ∈
        (BrowserKeyword.provider default).declarations := by simp [BrowserKeyword.provider]
    exact courteous_of_isBuiltIn ⟨default, _, declared, rfl⟩ id

theorem sessions_end_with_two_workers :
    let plan : SuitePlan := ⟨.reopening, [], [], 2⟩
    let turns := (List.replicate 20 [0, 1]).flatten
    ∃ σ : Scene Unit, Scene.Run .brittle plan (.opening ⟨.empty, ⟨(), []⟩⟩) σ ∧
      σ.world = (Surroundings.brittle.recorded.runSuite plan turns ⟨.empty, ⟨(), []⟩⟩).2 ∧
      σ.world.outer.journal = [.created 1, .created 2, .called 1 .quit, .created 3, .called 3 (.click "#go"),
        .called 3 (.saveScreenshot "shots/FAILURE_TC1_First_00000_000000_000000.png"), .called 3 .quit,
        .called 2 .quit, .created 4, .called 4 (.click "#go"),
        .called 4 (.saveScreenshot "shots/FAILURE_TC2_Second_00000_000000_000000.png"), .called 4 .quit] ∧
      ∀ n, lifeOf n σ.history.sessionLog ≠ [] →
        ∃ place, IsWholeLife place n (lifeOf n σ.history.sessionLog) := by
  intro plan turns
  have quits : ∀ n, (Surroundings.brittle.browse n .quit).Ordinarily := fun _ => Act.ordinarily_throw rfl
  have keywords : plan.registry.Courteous := KeywordRegistry.courteous_reopening
  obtain ⟨σ, run, world, -, -, lives, -⟩ := sessions_end_with_their_case rfl quits keywords turns ()
  refine ⟨σ, run, world, ?_, lives⟩
  rw [world]
  decide +kernel

end KeywordSuite
