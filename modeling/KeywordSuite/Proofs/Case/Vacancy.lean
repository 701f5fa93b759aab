import KeywordSuite.Proofs.Case.Marking
import KeywordSuite.Proofs.Definition.Written

/-!
# Passing without a keyword

A test case whose source lists nothing for it fails. Whether there is anything is asked of the entries, and blank ones
are left out only later, so a test case that lists nothing but blanks does nothing and passes. The documents and the
workbooks of a suite list no blanks, and what they define never passes without a record.
-/

namespace KeywordSuite

variable {ω : Type} {s : Surroundings ω} {d : CaseDescriptor} {registry : KeywordRegistry}

/-! ## What is left of a sequence -/

/-- Something is listed, and all of it is blank. -/
def Loading.OnlyBlanks (loading : Loading) : Prop :=
  ∃ sequence, loading = .loaded sequence ∧ sequence ≠ [] ∧ ∀ v ∈ sequence, CaseDescriptor.keywordText v = .ok none

/-- Nothing is listed, or loading it met a fault. -/
def Loading.ListsNothing (loading : Loading) : Prop := ∀ sequence, loading = .loaded sequence → sequence = []

theorem Loading.not_onlyBlanks {loading : Loading} (h : loading.ListsNothing) : ¬ loading.OnlyBlanks := by
  rintro ⟨sequence, rfl, listed, -⟩
  exact listed (h sequence rfl)

/-- What the way of loading tells of the state that the keywords leave. -/
structure Loading.Leaves (loading : Loading) (st : CaseState) : Prop where
  blank : loading.OnlyBlanks → st.executions = [] ∧ st.context.failures = [] ∧ st.context.HoldsTexts
  filled : ¬ loading.OnlyBlanks → st.executions = [] → st.context.failures ≠ []
  vacant : loading.ListsNothing → st.executions = []

theorem CaseState.failures_failing_ne_nil (st : CaseState) (reason : String) : (st.failing reason).context.failures ≠ [] := by
  simp [failing, Context.fail]

theorem Loading.leaves_failing {loading : Loading} (vacant : loading.ListsNothing) (st : CaseState)
    (fresh : st.executions = []) (reason : String) : loading.Leaves (st.failing reason) where
  blank h := absurd h (not_onlyBlanks vacant)
  filled _ _ := st.failures_failing_ne_nil reason
  vacant _ := fresh

/-- Blanks leave the state as it is. -/
theorem carries_blank (st : CaseState) : Carries s registry
    (fun rest left => (∀ v ∈ rest, CaseDescriptor.keywordText v = .ok none) ∧ left = st)
    fun outcome left => outcome = .ok () ∧ left = st where
  ends holds := ⟨rfl, holds.2⟩
  skips _ holds := ⟨fun v mem => holds.1 v (List.mem_cons_of_mem _ mem), holds.2⟩
  breaks faulty holds := by cases faulty.symm.trans (holds.1 _ List.mem_cons_self)
  dispatches named holds := by cases named.symm.trans (holds.1 _ List.mem_cons_self)

/-- An entry that is not blank leaves a record, or a fault. -/
theorem carries_filled (hs : s.Orderly) (hr : registry.Uninterrupted s) : Carries s registry
    (fun rest left => left.executions = [] → ∃ v ∈ rest, CaseDescriptor.keywordText v ≠ .ok none)
    fun outcome left => left.executions = [] → ∃ fault, outcome = .error fault where
  ends holds empty := by
    obtain ⟨_, mem, -⟩ := holds empty
    cases mem
  skips blank holds empty := by
    obtain ⟨v, mem, filled⟩ := holds empty
    rcases List.mem_cons.1 mem with rfl | mem
    · exact absurd blank filled
    · exact ⟨v, mem, filled⟩
  breaks {_ _ _ fault} _ _ _ := ⟨fault, rfl⟩
  dispatches {_ _ st keyword} _ _ w := by
    refine (meets_dispatch hs hr keyword).mono ?_
    intro _ c _ told
    obtain ⟨e, rfl, -⟩ := told
    have recorded : st.executions ++ [e] ≠ [] := by simp
    exact ⟨e, rfl, fun _ empty => absurd empty recorded, fun _ empty => absurd empty recorded⟩

theorem meets_attemptKeywords_leaves (hs : s.Orderly) (hr : registry.Uninterrupted s) {st : CaseState} {w : World ω}
    (fresh : st.executions = []) (clean : st.context.failures = []) (texts : st.context.HoldsTexts) :
    Meets s.actual (d.attemptKeywords registry) st w fun r st' _ => r = .ok () ∧ (d.loadingIn s w).Leaves st' := by
  have executes : Meets s.actual (d.execute registry) st w fun r st' _ =>
      Ordinary r ∧ (d.loadingIn s w).Leaves (st'.ended r) := by
    refine CaseDescriptor.meets_execute_of (K := fun loading outcome st' => loading.Leaves (st'.ended outcome))
      hs.toUninterrupted ?_ ?_ ?_
    · intro loading fault data broken
      have vacant : loading.ListsNothing := by
        rintro sequence rfl
        cases broken
      exact Loading.leaves_failing vacant (st.given data) fresh _
    · intro data
      have vacant : (Loading.loaded []).ListsNothing := by
        intro sequence same
        cases same
        rfl
      exact Loading.leaves_failing vacant (st.given data) fresh _
    -- a flow of blanks runs through without a trace; any other keeps a record or stops at a fault
    · intro sequence data _ outcome left _ listed _ steps
      have filled_not_vacant : ¬ (Loading.loaded sequence).ListsNothing := fun h => listed (h sequence rfl)
      by_cases blanks : ∀ v ∈ sequence, CaseDescriptor.keywordText v = .ok none
      · obtain ⟨ordinary, rfl, rfl⟩ := (carries_blank (st.given data)).of_steps steps ⟨blanks, rfl⟩
        exact ⟨ordinary, fun _ => ⟨fresh, clean, texts⟩, fun h => absurd ⟨sequence, rfl, listed, blanks⟩ h,
          fun h => absurd h filled_not_vacant⟩
      · have named : ∃ v ∈ sequence, CaseDescriptor.keywordText v ≠ .ok none := by
          by_contra none_named
          exact blanks fun v mem => by_contra fun named => none_named ⟨v, mem, named⟩
        obtain ⟨ordinary, records⟩ := (carries_filled hs hr).of_steps steps fun _ => named
        refine ⟨ordinary, ?_, ?_, fun h => absurd h filled_not_vacant⟩
        · rintro ⟨_, same, -, others⟩
          cases same
          exact absurd others blanks
        · intro _ empty
          cases outcome with
          | ok _ =>
            obtain ⟨_, faulty⟩ := records empty
            cases faulty
          | error fault => exact left.failures_failing_ne_nil _
  refine (CaseDescriptor.meets_attemptKeywords_of executes).mono ?_
  intro _ _ _ told
  obtain ⟨rfl, outcome, left, _, leaves, rfl, -⟩ := told
  exact ⟨rfl, leaves⟩

/-! ## The sources -/

/-- Every entry that a source lists names a keyword, or has no text. -/
def DefinitionSource.ListsNoBlanks (source : DefinitionSource ω) : Prop :=
  ∀ testId x sequence, ((source.loadKeywords testId).run x).1 = .ok sequence →
    ∀ v ∈ sequence, CaseDescriptor.keywordText v ≠ .ok none

theorem keywordText_text_eq_none_iff (text : String) :
    CaseDescriptor.keywordText (.text text) = .ok none ↔ Text.isBlankText text = true := by
  rw [keywordText_of_legible (.inr ⟨text, rfl⟩), Except.ok.injEq, keyword?_text_eq_none_iff]

section

variable {ε : Type}

theorem SuiteDocument.listsNoBlanks_source (path : FilePath) (kept : Place ε (Option SuiteDocument)) :
    (source path kept).ListsNoBlanks := by
  intro testId h sequence listed v mem
  obtain ⟨document, h', -, found⟩ := Act.exists_of_run_bind (Prod.ext listed rfl)
  cases entry : document.ofId? testId with
  | none =>
    rw [entry] at found
    obtain ⟨_, _, -, found⟩ := Act.exists_of_run_bind found
    cases found
    cases mem
  | some e =>
    rw [entry] at found
    cases found
    obtain ⟨text, kept, rfl⟩ := List.mem_map.1 mem
    have filled := (List.mem_filter.1 kept).2
    rw [Ne, keywordText_text_eq_none_iff]
    simpa using filled

theorem Workbook.isBlankText_of_mem_keywords {row : SheetRow} {most : Nat} {text : String}
    (mem : text ∈ keywords row most) : Text.isBlankText text = false := by
  obtain ⟨n, -, named⟩ := List.mem_filterMap.1 mem
  split at named
  · cases named
  · rename_i filled
    cases named
    rw [← Bool.not_eq_true, ← Text.strip_eq_empty_iff, Text.strip_strip]
    exact filled

theorem Workbook.listsNoBlanks_source (shelf : Place ε SheetShelf) (paths : WorkbookPaths) :
    (source shelf paths).ListsNoBlanks := by
  intro testId h sequence listed v mem
  obtain ⟨row, h', -, found⟩ := Act.exists_of_run_bind (Prod.ext listed rfl)
  cases row with
  | none =>
    obtain ⟨_, _, -, found⟩ := Act.exists_of_run_bind found
    cases found
    cases mem
  | some row =>
    obtain ⟨_, _, -, found⟩ := Act.exists_of_run_bind found
    cases found
    obtain ⟨text, kept, rfl⟩ := List.mem_map.1 mem
    rw [Ne, keywordText_text_eq_none_iff, isBlankText_of_mem_keywords kept]
    exact Bool.false_ne_true

end

/-! ## The verdict -/

/--
A test case passes without a record exactly if its source lists something for it and nothing but blanks. Where nothing
is listed it fails without a record, and where no blanks are listed it never passes without one.
-/
theorem passes_without_record_iff (hs : s.Orderly) (plan : SuitePlan) (hr : plan.registry.Uninterrupted s)
    (d : CaseDescriptor) (unit : UnitId) (w : World ω) :
    ∃ r w', (s.perform (d.run plan unit)).run w = (.ok r, w') ∧
      (r.status = .passed ∧ r.keywords = [] ↔ (d.loadingFrom s w).OnlyBlanks) ∧
      ((d.loadingFrom s w).ListsNothing → r.status = .failed ∧ r.keywords = []) ∧
      (s.source.ListsNoBlanks → r.status = .passed → r.keywords ≠ []) := by
  obtain ⟨r, w', _, left, _, run, later, leaves, concludes⟩ :=
    d.exists_result hs plan unit w (K := (d.loadingFrom s w).Leaves) fun opened loading =>
      loading ▸ meets_attemptKeywords_leaves hs hr rfl rfl nofun
  have vacuous : r.status = .passed ∧ r.keywords = [] ↔ (d.loadingFrom s w).OnlyBlanks := by
    rw [concludes.passed_iff, concludes.records]
    constructor
    · intro passed
      obtain ⟨clean, empty⟩ := passed
      by_contra filled
      rw [concludes.history, Trouble.addAll_eq_nil] at clean
      exact leaves.filled filled empty clean.1
    · intro blank
      obtain ⟨empty, clean, texts⟩ := leaves.blank blank
      exact ⟨(concludes.history_of_texts hs.steady later texts).trans clean, empty⟩
  refine ⟨r, w', run, vacuous, ?_, ?_⟩
  · intro vacant
    have empty : r.keywords = [] := concludes.records.trans (leaves.vacant vacant)
    refine ⟨?_, empty⟩
    cases verdict : r.status with
    | failed => rfl
    | passed => exact absurd (vacuous.1 ⟨verdict, empty⟩) (Loading.not_onlyBlanks vacant)
  · intro no_blanks passed empty
    obtain ⟨sequence, loaded, listed, blanks⟩ := vacuous.1 ⟨passed, empty⟩
    obtain ⟨x, lists⟩ := CaseDescriptor.exists_loads loaded
    obtain ⟨v, mem⟩ := List.exists_mem_of_ne_nil sequence listed
    exact no_blanks d.testId x sequence lists v mem (blanks v mem)

theorem passes_without_record_blanks :
    let s := Surroundings.adverse [.null, .text " "]
    let plan : SuitePlan := ⟨.fragile, [], [], 1⟩
    let d : CaseDescriptor := { testId := "TC1", testName := "First" }
    ∃ r w', (s.perform (d.run plan .calling)).run ⟨.empty, ()⟩ = (.ok r, w') ∧
      (d.loadingFrom s ⟨.empty, ()⟩).OnlyBlanks ∧ r.status = .passed ∧ r.keywords = [] := by
  intro s plan d
  have uninterrupted : plan.registry.Uninterrupted s := KeywordRegistry.uninterrupted_fragile s
  obtain ⟨r, w', run, vacuous, -⟩ :=
    passes_without_record_iff (Surroundings.orderly_adverse _) plan uninterrupted d .calling ⟨.empty, ()⟩
  have blanks : (d.loadingFrom s ⟨.empty, ()⟩).OnlyBlanks := by
    refine ⟨[.null, .text " "], rfl, List.cons_ne_nil _ _, ?_⟩
    intro v mem
    simp only [List.mem_cons, List.not_mem_nil, or_false] at mem
    rcases mem with rfl | rfl <;> rfl
  exact ⟨r, w', run, blanks, vacuous.2 blanks⟩

/-- A pass without a record: the blanks are no keywords, and yet the list of them is not empty. -/
theorem passed_on_blanks :
    ¬ ∀ (keywords : List Value) (d : CaseDescriptor) (r : CaseResult) (w' : World Unit),
      ((Surroundings.adverse keywords).perform (d.run ⟨.fragile, [], [], 1⟩ .calling)).run ⟨.empty, ()⟩ = (.ok r, w') →
        r.status = .passed → r.keywords ≠ [] := by
  intro claimed
  exact claimed [.null, .text "", .text "  "] { testId := "TC1", testName := "First" } _ _ rfl rfl rfl

end KeywordSuite
