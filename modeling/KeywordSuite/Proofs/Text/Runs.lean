import KeywordSuite.Text.Blank

/-!
# Runs of letters

A table of letters is gone through run by run: where no range and no run of a table reaches between two code points,
none of them has a property or an image there, and a run that moves its letters to such places moves them for good.
-/

namespace KeywordSuite

namespace Text

/-! ## Apart from a table -/

/-- No range of a table reaches between two code points. -/
def CodeRanges.clearOf (low high : Nat) : CodeRanges → Bool
  | [] => true
  | (first, last) :: rest => Nat.blt high first || (Nat.blt last low && CodeRanges.clearOf low high rest)

theorem CodeRanges.has_eq_false {low high n : Nat} (from_low : low ≤ n) (to_high : n ≤ high) :
    ∀ ranges : CodeRanges, CodeRanges.clearOf low high ranges = true → CodeRanges.has ranges n = false
  | [], _ => rfl
  | (first, last) :: rest, clear => by
    simp only [CodeRanges.clearOf, Bool.or_eq_true, Bool.and_eq_true, Nat.blt_eq] at clear
    unfold CodeRanges.has
    by_cases below : n < first
    · rw [if_pos below]
    · obtain ⟨above, clear⟩ := clear.resolve_left (by omega)
      rw [if_neg below, if_neg (by omega)]
      exact CodeRanges.has_eq_false from_low to_high rest clear

/-- No run of a table moves `low`, or what lies at a multiple of `step` above it up to `high`. -/
def CaseRuns.clearOf (low high step : Nat) : CaseRuns → Bool
  | [] => true
  | (first, last, step', _) :: rest =>
    Nat.blt high first ||
      ((Nat.blt last low ||
        ((Nat.beq step' step || Nat.beq low high) && !Nat.beq (low % step') (first % step'))) &&
          CaseRuns.clearOf low high step rest)

theorem CaseRuns.image_eq_self {low high step n : Nat} (from_low : low ≤ n) (to_high : n ≤ high)
    (on_step : (n - low) % step = 0) :
    ∀ runs : CaseRuns, CaseRuns.clearOf low high step runs = true → CaseRuns.image runs n = n
  | [], _ => rfl
  | (first, last, step', distance) :: rest, clear => by
    simp only [CaseRuns.clearOf, Bool.or_eq_true, Bool.and_eq_true, Nat.blt_eq, Nat.beq_eq, Bool.not_eq_true'] at clear
    unfold CaseRuns.image
    by_cases below : n < first
    · rw [if_pos below]
    · obtain ⟨apart, clear⟩ := clear.resolve_left (by omega)
      have other : ¬ ((decide (n ≤ last) && (n - first) % step' == 0) = true) := by
        intro within
        simp only [Bool.and_eq_true, decide_eq_true_eq, beq_iff_eq] at within
        rcases apart with above | ⟨alike, between⟩
        · omega
        · -- The letter leaves the remainder of `low` by its own steps, and that of `first` by the steps of the run.
          obtain ⟨k, steps⟩ := Nat.dvd_of_mod_eq_zero within.2
          obtain ⟨j, offset⟩ : ∃ j, n = low + step' * j := by
            rcases alike with rfl | rfl
            · obtain ⟨j, steps⟩ := Nat.dvd_of_mod_eq_zero on_step
              exact ⟨j, by omega⟩
            · exact ⟨0, by omega⟩
          refine Nat.ne_of_beq_eq_false between ?_
          have reached : low + step' * j = first + step' * k := by omega
          rw [← Nat.add_mul_mod_self_left low step' j, reached, Nat.add_mul_mod_self_left]
      rw [if_neg below, if_neg other]
      exact CaseRuns.image_eq_self from_low to_high on_step rest clear

/-- A run moves a code point to its image. -/
def CaseRuns.Moves (run : Nat × Nat × Nat × Int) (n image : Nat) : Prop :=
  run.1 ≤ n ∧ n ≤ run.2.1 ∧ (n - run.1) % run.2.2.1 = 0 ∧ image = (n + run.2.2.2).toNat

theorem CaseRuns.image_cases (n : Nat) :
    ∀ runs : CaseRuns, CaseRuns.image runs n = n ∨ ∃ run ∈ runs, CaseRuns.Moves run n (CaseRuns.image runs n)
  | [] => .inl rfl
  | (first, last, step, distance) :: rest => by
    unfold CaseRuns.image
    by_cases below : n < first
    · exact .inl (if_pos below)
    · rw [if_neg below]
      by_cases within : (decide (n ≤ last) && (n - first) % step == 0) = true
      · rw [if_pos within]
        simp only [Bool.and_eq_true, decide_eq_true_eq, beq_iff_eq] at within
        exact .inr ⟨_, List.mem_cons_self, Nat.le_of_not_lt below, within.1, within.2, rfl⟩
      · rw [if_neg within]
        rcases CaseRuns.image_cases n rest with same | ⟨run, held, moves⟩
        · exact .inl same
        · exact .inr ⟨run, List.mem_cons_of_mem _ held, moves⟩

/-! ## Moved for good -/

/--
The letters that a run moves are moved to letters that no run of a table moves, that are no blanks and not among those
apart. A letter of ASCII is only come to by a run of one letter.
-/
def CaseRuns.settles (runs : CaseRuns) (apart : CodeRanges) (ascii : Char → Bool)
    (run : Nat × Nat × Nat × Int) : Bool :=
  let low := (run.1 + run.2.2.2).toNat
  let high := (run.2.1 + run.2.2.2).toNat
  Nat.blt 0 low && Nat.blt high 0x110000 && CodeRanges.clearOf low high blankRanges &&
    (if Nat.ble 128 low then CaseRuns.clearOf low high run.2.2.1 runs && CodeRanges.clearOf low high apart
    else Nat.beq low high && ascii (Char.ofNat low))

theorem CaseRuns.settled_of_moves {runs : CaseRuns} {apart : CodeRanges} {ascii : Char → Bool}
    {run : Nat × Nat × Nat × Int} {n m : Nat} (settled : settles runs apart ascii run = true) (moves : Moves run n m) :
    m < 0x110000 ∧ blankRanges.has m = false ∧
      (128 ≤ m ∧ runs.image m = m ∧ apart.has m = false ∨ m < 128 ∧ ascii (Char.ofNat m) = true) := by
  obtain ⟨from_first, to_last, on_step, rfl⟩ := moves
  obtain ⟨first, last, step, distance⟩ := run
  simp only [settles, Bool.and_eq_true, Nat.blt_eq] at settled from_first to_last on_step ⊢
  obtain ⟨⟨⟨positive, bounded⟩, noBlank⟩, settled⟩ := settled
  -- The image lies as far from the image of the first letter as the letter lies from the first.
  have offset : (n + distance).toNat - (first + distance).toNat = n - first := by omega
  have from_low : (first + distance).toNat ≤ (n + distance).toNat := by omega
  have to_high : (n + distance).toNat ≤ (last + distance).toNat := by omega
  refine ⟨by omega, CodeRanges.has_eq_false from_low to_high _ noBlank, ?_⟩
  split at settled
  · rename_i beyond
    obtain ⟨still, own⟩ := Bool.and_eq_true_iff.1 settled
    exact .inl ⟨Nat.le_trans (Nat.le_of_ble_eq_true beyond) from_low,
      CaseRuns.image_eq_self from_low to_high (by rw [offset, on_step]) _ still,
      CodeRanges.has_eq_false from_low to_high _ own⟩
  · rename_i small
    obtain ⟨single, letter⟩ := Bool.and_eq_true_iff.1 settled
    have same : (n + distance).toNat = (first + distance).toNat := by
      have := Nat.eq_of_beq_eq_true single
      omega
    rw [same]
    simp only [Nat.ble_eq] at small
    exact .inr ⟨by omega, letter⟩

theorem toNat_ofNat_of_valid {n : Nat} (valid : n < 0xd800 ∨ 0xdfff < n ∧ n < 0x110000) : (Char.ofNat n).toNat = n := by
  rw [Char.ofNat, dif_pos valid]
  rfl

end Text

end KeywordSuite
