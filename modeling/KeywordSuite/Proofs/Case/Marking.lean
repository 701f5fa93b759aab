import KeywordSuite.Proofs.Case.Loop
import KeywordSuite.Proofs.Keyword.Account
import KeywordSuite.Proofs.Keyword.Marking
import KeywordSuite.Proofs.Suite.Isolation

/-!
# A test case that drives the browser fails for one reason

A failure of a keyword that drives the browser is marked once: by the keyword itself where it answers, by the dispatch
where it breaks. Either ends the sequence, and a name that stands for no keyword does as well. So the reasons of such a
test case are none or one, and recording its result adds none.
-/

namespace KeywordSuite

variable {ω : Type} {s : Surroundings ω}

/-! ## A single reason -/

/-- At most one reason of failure, and only texts in the scratch space. -/
structure Context.Single (c : Context) : Prop where
  failures : c.failures.length ≤ 1
  texts : c.HoldsTexts

theorem Context.single_of_nil {c : Context} (clean : c.failures = []) (texts : c.HoldsTexts) : c.Single :=
  ⟨by rw [clean]; exact Nat.zero_le 1, texts⟩

theorem Context.single_fail {c : Context} (clean : c.failures = []) (texts : c.HoldsTexts) (reason : String) :
    (c.fail reason).Single :=
  ⟨by simp [Context.fail, clean], texts⟩

theorem Context.HoldsTexts.of_adds {c c' : Context} (texts : c.HoldsTexts) (adds : c' = c ∨ ∃ x, c' = c.fail x) :
    c'.HoldsTexts := by
  obtain rfl | ⟨x, rfl⟩ := adds
  · exact texts
  · exact texts

namespace KeywordEntry

/-- An entry of a keyword that drives the browser, as mandatory as it is declared. -/
def IsDeclared (e : KeywordEntry) : Prop :=
  ∃ settings, ∃ declared ∈ (BrowserKeyword.provider settings).declarations,
    declared.body = some e.body ∧ declared.mandatory = e.mandatory

variable {e : KeywordEntry} {c left after : Context} {outcome : Except Fault Value} {status : KeywordStatus}
  {reason : Option String}

theorem IsDeclared.marked (h : e.IsDeclared) (hs : s.Uninterrupted) (c : Context) (w : World ω) :
    Marked e.mandatory (e.played s c w).1.1 c (e.played s c w).1.2 := by
  obtain ⟨settings, declared, mem, body, mandatory⟩ := h
  have marks : KeywordProcedure.Marks s declared.mandatory (e.body c.identity) :=
    BrowserKeyword.marks_declared hs settings mem body
  rw [mandatory] at marks
  exact (Surroundings.keeps_actual _ _ _).1 (marks c _)

/-- A record that is not one of failure leaves no reason. -/
theorem Accounts.nil_of_unfailed (accounts : e.Accounts outcome left after status reason)
    (marked : Marked e.mandatory outcome c left) (clean : c.failures = []) (unfailed : status ≠ .failed) :
    after.failures = [] := by
  rw [accounts.leaves unfailed, ← clean]
  apply marked.kept
  cases mandatory : e.mandatory with
  | false => exact .inl rfl
  | true =>
    refine .inr ?_
    rintro rfl
    exact unfailed (accounts.failed_iff.2 (.inr ⟨mandatory, _, rfl, rfl⟩))

theorem Accounts.single (accounts : e.Accounts outcome left after status reason)
    (marked : Marked e.mandatory outcome c left) (clean : c.failures = []) (texts : c.HoldsTexts) : after.Single := by
  have left_texts := marked.texts texts
  by_cases failed : status = .failed
  · rcases accounts.failed_iff.1 failed with ⟨fault, rfl⟩ | ⟨mandatory, v, rfl, refused⟩
    · -- The keyword broke without giving a reason; the dispatch gives it.
      obtain ⟨-, x, -, rfl⟩ := accounts.broken fault rfl
      exact Context.single_fail ((marked.kept (.inr nofun)).trans clean) left_texts x
    · -- The keyword gave the reason itself, so the dispatch adds none.
      obtain rfl := marked.plain v rfl refused
      obtain ⟨x, given⟩ := marked.refused mandatory rfl
      rw [clean] at given
      have same : after = left := by
        by_contra differs
        have none_given := accounts.first _ rfl differs
        rw [given] at none_given
        cases none_given
      rw [same]
      exact ⟨by rw [given]; exact Nat.le_refl 1, left_texts⟩
  · exact Context.single_of_nil (accounts.nil_of_unfailed marked clean failed) (left_texts.of_adds accounts.adds)

end KeywordEntry

/-! ## A sequence -/

/-- Each keyword of a sequence drives the browser, or is unknown. -/
def KeywordRegistry.DrivesOnly (r : KeywordRegistry) (sequence : List Value) : Prop :=
  ∀ v ∈ sequence, ∀ keyword, CaseDescriptor.keywordText v = .ok (some keyword) →
    ∀ e, r.resolve? (some keyword) = some e → e.IsDeclared

section

variable {registry : KeywordRegistry} {c : Context}

theorem meets_dispatch_single (hs : s.Uninterrupted) (steady : s.Steady) (clean : c.failures = []) (texts : c.HoldsTexts)
    {keyword : String} (drives : ∀ e, registry.resolve? (some keyword) = some e → e.IsDeclared) (w : World ω) :
    Meets s.actual (registry.dispatch (some keyword)) c w fun r c' _ => ∃ e, r = .ok e ∧ c'.Single ∧
      (¬ (e.succeeded = false ∧ c'.passed = false) → c'.failures = []) := by
  unfold KeywordRegistry.dispatch
  cases resolved : registry.resolve? (some keyword) with
  | none =>
    simp only [KeywordRegistry.reportUnknown, meets_bind, meets_contextLog, meets_contextFail, meets_pure]
    refine ⟨_, rfl, Context.single_fail clean texts _, fun goes_on => absurd ⟨rfl, ?_⟩ goes_on⟩
    simp [Context.passed, Context.fail]
  | some e =>
    have marked := (drives e resolved).marked hs c w
    refine (KeywordEntry.accounts_runEntry steady marked.ordinary).mono ?_
    intro _ c' _ told
    obtain ⟨x, rfl, accounts, -⟩ := told
    refine ⟨x, rfl, accounts.single marked clean texts, fun goes_on => accounts.nil_of_unfailed marked clean ?_⟩
    intro failed
    refine goes_on ⟨?_, (accounts.tells failed).1⟩
    rw [KeywordExecution.succeeded, failed]
    rfl

theorem carries_single (hs : s.Uninterrupted) (steady : s.Steady) :
    Carries s registry (fun rest st => registry.DrivesOnly rest ∧ st.context.failures = [] ∧ st.context.HoldsTexts)
      fun outcome st => (st.ended outcome).context.Single where
  ends holds := Context.single_of_nil holds.2.1 holds.2.2
  skips _ holds := ⟨fun v mem => holds.1 v (List.mem_cons_of_mem _ mem), holds.2⟩
  breaks _ holds := Context.single_fail holds.2.1 holds.2.2 _
  dispatches {v rest st keyword} text holds w := by
    obtain ⟨drives, clean, texts⟩ := holds
    refine (meets_dispatch_single hs steady clean texts (drives v List.mem_cons_self keyword text) w).mono ?_
    intro _ c' _ told
    obtain ⟨e, rfl, single, kept⟩ := told
    exact ⟨e, rfl, fun _ => single,
      fun goes_on => ⟨fun v mem => drives v (List.mem_cons_of_mem _ mem), kept goes_on, single.texts⟩⟩

end

/-! ## Recording -/

theorem Context.HoldsTexts.textOf {c : Context} (texts : c.HoldsTexts) (key : String) :
    ∃ found, Context.textOf c.scratch key = .ok found := by
  unfold Context.textOf
  cases found : c.scratch.get? key with
  | none => exact ⟨none, rfl⟩
  | some v =>
    obtain ⟨text, is_text⟩ := texts (key, v) (Entries.mem_of_get? found)
    obtain rfl : v = .text text := is_text
    exact ⟨some text, rfl⟩

namespace CaseDescriptor

variable {d : CaseDescriptor}

theorem collectMetadata_ok {c : Context} (texts : c.HoldsTexts) :
    ∀ keys found, ∃ metadata, collectMetadata c keys found = .ok metadata
  | [], found => ⟨found, rfl⟩
  | key :: keys, found => by
    obtain ⟨text, read⟩ := texts.textOf key
    unfold collectMetadata
    rw [read]
    dsimp only [bind, Except.bind]
    split
    · exact collectMetadata_ok texts keys found
    · exact collectMetadata_ok texts keys found
    · exact collectMetadata_ok texts keys _

/-- Where the stopwatch never goes back, recording meets no fault. -/
theorem recordFault?_eq_none (steady : s.Steady) {st : CaseState} {w w' : World ω} (texts : st.context.HoldsTexts)
    (later : s.Later w w') (keys : List String) (startedAt : Timestamp) :
    d.recordFault? s keys startedAt (s.stopwatch w.outer) st w' = none := by
  have met : Meets s.actual (d.buildResult keys startedAt (s.stopwatch w.outer)) st w' fun r _ _ => ∃ res, r = .ok res := by
    obtain ⟨metadata, collected⟩ := collectMetadata_ok texts keys []
    unfold buildResult
    rw [meets_bind, meets_get]
    dsimp only
    rw [meets_bind, meets_ofExcept, collected]
    dsimp only
    rw [meets_bind, meets_caseNow]
    dsimp only
    rw [meets_bind, meets_caseStopwatch]
    dsimp only
    rw [meets_ofExcept]
    exact ⟨_, if_pos (steady w w' later)⟩
  obtain ⟨r, st', w'', run, res, rfl⟩ := Surroundings.exists_of_meets met
  unfold recordFault?
  have run_eq : ((d.buildResult keys startedAt (s.stopwatch w.outer)).run st).run s.handle w' = ((.ok res, st'), w'') := run
  rw [run_eq]

/-- The reasons in a result are those that were there, where only texts are to be recorded. -/
theorem Concludes.history_of_texts {keys : List String} {w closing : World ω} {startedAt : Timestamp} {left : CaseState}
    {r : CaseResult} (h : d.Concludes s keys w startedAt left closing r) (steady : s.Steady) (later : s.Later w closing)
    (texts : left.context.HoldsTexts) : r.failureHistory = left.context.failures := by
  rw [h.history, recordFault?_eq_none steady texts later]
  rfl

/-! ## The verdict -/

variable {registry : KeywordRegistry} {st : CaseState} {w : World ω}

theorem meets_attemptKeywords_single (hs : s.Uninterrupted) (steady : s.Steady) (clean : st.context.failures = [])
    (texts : st.context.HoldsTexts) (drives : ∀ sequence, d.loadingIn s w = .loaded sequence → registry.DrivesOnly sequence) :
    Meets s.actual (d.attemptKeywords registry) st w fun r st' _ => r = .ok () ∧ st'.context.Single := by
  have executes : Meets s.actual (d.execute registry) st w fun r st' _ => Ordinary r ∧ (st'.ended r).context.Single := by
    refine meets_execute_of (K := fun _ outcome st' => (st'.ended outcome).context.Single) hs ?_ ?_ ?_
    · exact fun _ fault data _ => Context.single_fail (c := st.context.setInput data) clean texts _
    · exact fun data => Context.single_fail (c := st.context.setInput data) clean texts _
    · intro sequence _ _ _ _ _ _ loading steps
      exact (carries_single hs steady).of_steps steps ⟨drives sequence loading, clean, texts⟩
  refine (meets_attemptKeywords_of executes).mono ?_
  intro _ _ _ told
  obtain ⟨rfl, outcome, left, _, single, rfl, -⟩ := told
  exact ⟨rfl, single⟩

end CaseDescriptor

/--
A mandatory keyword that drives the browser answers with a failure exactly if it gave one reason, and gives none
otherwise; an optional one never gives any. So a test case over such keywords and unknown ones has no reason if it
passed, and exactly one if it failed.
-/
theorem failures_are_marked_once (hs : s.Uninterrupted) :
    (∀ settings, ∀ declared ∈ (BrowserKeyword.provider settings).declarations, ∀ body, declared.body = some body →
      ∀ identity c w, ∃ r c' w', ((body identity).runIn.run c).run s.handle w = ((r, c'), w') ∧ ∀ v, r = .ok v →
        (declared.mandatory = true → ((v = .bool false ↔ ∃ reason, c'.failures = c.failures ++ [reason]) ∧
          (v ≠ .bool false → c'.failures = c.failures))) ∧
        (declared.mandatory = false → c'.failures = c.failures)) ∧
    (s.Steady → ∀ (plan : SuitePlan) (d : CaseDescriptor) (unit : UnitId) (w : World ω),
      (∀ sequence, d.loadingFrom s w = .loaded sequence → plan.registry.DrivesOnly sequence) →
        ∃ r w', (s.perform (d.run plan unit)).run w = (.ok r, w') ∧ (r.status = .passed → r.failureHistory = []) ∧
          (r.status = .failed → ∃ reason, r.failureHistory = [reason])) := by
  constructor
  · intro settings declared mem body there identity c w
    have marks : KeywordProcedure.Marks s declared.mandatory (body identity) :=
      BrowserKeyword.marks_declared hs settings mem there
    obtain ⟨r, c', w', run, marked⟩ := Surroundings.exists_of_meets (marks c w)
    refine ⟨r, c', w', run, ?_⟩
    rintro v rfl
    refine ⟨fun mandatory => ?_, fun optional => marked.kept (.inl optional)⟩
    have kept : v ≠ .bool false → c'.failures = c.failures := fun other =>
      marked.kept (.inr fun same => other (Except.ok.inj same))
    refine ⟨⟨?_, ?_⟩, kept⟩
    · rintro rfl
      exact marked.refused mandatory rfl
    · rintro ⟨reason, given⟩
      by_contra other
      have none_given := (kept other).symm.trans given
      simp at none_given
  · intro steady plan d unit w drives
    have orderly : s.Orderly := ⟨hs, steady⟩
    obtain ⟨r, w', _, _, _, run, later, single, concludes⟩ :=
      d.exists_result orderly plan unit w fun opened loading =>
        CaseDescriptor.meets_attemptKeywords_single hs steady rfl nofun fun sequence loaded => drives sequence (loading ▸ loaded)
    -- what is said of the result is what was marked in the context: at most one reason
    have few : r.failureHistory.length ≤ 1 := concludes.history_of_texts steady later single.texts ▸ single.failures
    refine ⟨r, w', run, ?_⟩
    rw [concludes.status]
    cases reasons : r.failureHistory with
    | nil => exact ⟨fun _ => rfl, nofun⟩
    | cons reason rest =>
      rw [reasons] at few
      obtain rfl : rest = [] := by simpa using few
      exact ⟨nofun, fun _ => ⟨reason, rfl⟩⟩

theorem KeywordRegistry.isDeclared_browsing {name : Option String} {e : KeywordEntry} (h : browsing.resolve? name = some e) :
    e.IsDeclared := by
  obtain ⟨key, filed⟩ := mem_of_resolve? h
  obtain ⟨declared, mem, filed⟩ := List.mem_filterMap.1 filed
  obtain ⟨body, there, entry⟩ := Option.map_eq_some_iff.1 filed
  obtain ⟨-, rfl⟩ := Prod.mk.inj entry
  exact ⟨default, declared, mem, there, rfl⟩

theorem failures_are_marked_once_click :
    let s := Surroundings.adverse [.text "verify_title", .null, .text " click ", .text "nowhere"]
    let plan : SuitePlan := ⟨.browsing, ["LAST_SCREENSHOT"], ["Mail"], 1⟩
    let d : CaseDescriptor := { testId := "TC1", testName := "First" }
    (∃ r c' w', ((BrowserKeyword.click ⟨"TC1", "First", .calling⟩).runIn.run (.new ⟨"TC1", "First", .calling⟩ true)).run
        s.handle ⟨.empty, ()⟩ = ((r, c'), w') ∧
      ∀ v, r = .ok v → (v = .bool false ↔ ∃ reason, c'.failures = [reason])) ∧
    ∃ r w', (s.perform (d.run plan .calling)).run ⟨.empty, ()⟩ = (.ok r, w') ∧
      r.status = .failed ∧ ∃ reason, r.failureHistory = [reason] := by
  intro s plan d
  have orderly : s.Orderly := Surroundings.orderly_adverse _
  obtain ⟨keywords, runs⟩ := failures_are_marked_once orderly.toUninterrupted
  constructor
  · obtain ⟨r, c', w', run, marks⟩ := keywords default ⟨"CLICK", some BrowserKeyword.click, true, "Click Element"⟩
      (by simp [BrowserKeyword.provider]) BrowserKeyword.click rfl ⟨"TC1", "First", .calling⟩
      (.new ⟨"TC1", "First", .calling⟩ true) ⟨.empty, ()⟩
    exact ⟨r, c', w', run, fun v same => ((marks v same).1 rfl).1⟩
  · obtain ⟨r, w', run, -, failed⟩ := runs orderly.steady plan d .calling ⟨.empty, ()⟩
      fun _ _ _ _ _ _ _ h => KeywordRegistry.isDeclared_browsing h
    have ended := congrArg (fun ended => (Prod.fst ended).toOption.map fun r : CaseResult => r.status) run
    have status : r.status = .failed := Option.some.inj (ended.symm.trans (by decide +kernel))
    exact ⟨r, w', run, status, failed status⟩

end KeywordSuite
