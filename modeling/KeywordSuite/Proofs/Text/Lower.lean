import KeywordSuite.Proofs.Text.Blank
import KeywordSuite.Proofs.Text.Runs
import KeywordSuite.Text.Lower

/-!
# Lower case once and for all

Lower case of lower case is the same again, and no blank comes of a letter, so a text that is stripped and put in
lower case stays as it is when both are done once more. The table of letters is gone through run by run.
-/

namespace KeywordSuite

namespace Text

/-! ## Letters that stay -/

/-- A character that lower case leaves alone. -/
def IsLower (c : Char) : Prop := lowerChar c = [c] ∧ c ≠ 'Σ'

instance (c : Char) : Decidable (IsLower c) := inferInstanceAs (Decidable (_ ∧ _))

/-- A character of lower case that is not a blank. -/
def IsLowerLetter (c : Char) : Prop := IsLower c ∧ isBlank c = false

instance (c : Char) : Decidable (IsLowerLetter c) := inferInstanceAs (Decidable (_ ∧ _))

/-- What has its own place in the lower case of characters beyond ASCII. -/
def lowerApart : CodeRanges := [(0x130, 0x130), (0x3a3, 0x3a3), (0xd800, 0xdfff)]

theorem lowerRuns_settle :
    lowerRuns.all (CaseRuns.settles lowerRuns lowerApart fun c => decide (IsLower c)) = true := by decide +kernel

theorem isLower_of_beyond {n : Nat} (beyond : 128 ≤ n) (still : lowerRuns.image n = n)
    (own : lowerApart.has n = false) (bounded : n < 0x110000) : IsLower (Char.ofNat n) ∧ (Char.ofNat n).toNat = n := by
  have apart : n ≠ 0x130 ∧ n ≠ 0x3a3 ∧ (n < 0xd800 ∨ 0xdfff < n) := by
    simp only [lowerApart, CodeRanges.has] at own
    grind
  have code : (Char.ofNat n).toNat = n := toNat_ofNat_of_valid (by omega)
  refine ⟨⟨?_, ?_⟩, code⟩
  · unfold lowerChar lowerSpecials
    rw [code, if_neg (by omega), List.lookup_cons, beq_false_of_ne apart.1]
    simp only [List.lookup_nil, still]
  · intro sigma
    rw [sigma] at code
    exact apart.2.1 code.symm

theorem isLowerLetter_of_moves {run : Nat × Nat × Nat × Int} (held : run ∈ lowerRuns) {n m : Nat}
    (moves : CaseRuns.Moves run n m) : IsLowerLetter (Char.ofNat m) := by
  obtain ⟨bounded, blank, ⟨beyond, still, own⟩ | ⟨ascii, lower⟩⟩ :=
    CaseRuns.settled_of_moves (List.all_eq_true.1 lowerRuns_settle run held) moves
  · obtain ⟨lower, code⟩ := isLower_of_beyond beyond still own bounded
    exact ⟨lower, by rw [isBlank, code, blank]⟩
  · exact ⟨of_decide_eq_true lower, by rw [isBlank, toNat_ofNat_of_valid (by omega), blank]⟩

theorem lowerChar_ascii : ∀ n : Fin 128, IsLower (Char.ofNat n) ∨
    ∃ d, lowerChar (Char.ofNat n) = [d] ∧ IsLowerLetter d := by
  have table : ∀ n : Fin 128, IsLower (Char.ofNat n) ∨ IsLowerLetter (Char.ofNat n).toLower := by decide +kernel
  intro n
  refine (table n).imp_right fun letter => ⟨_, ?_, letter⟩
  rw [lowerChar, toNat_ofNat_of_valid (by omega), if_pos n.isLt]

/-- A character is of lower case, or letters of lower case come of it. -/
theorem lowerChar_cases (c : Char) (other : c ≠ 'Σ') :
    IsLower c ∨ lowerChar c ≠ [] ∧ ∀ d ∈ lowerChar c, IsLowerLetter d := by
  by_cases ascii : c.toNat < 128
  · have cases := lowerChar_ascii ⟨c.toNat, ascii⟩
    simp only [Char.ofNat_toNat] at cases
    refine cases.imp_right ?_
    rintro ⟨d, image, letter⟩
    simpa [image] using letter
  · by_cases special : c.toNat = 0x130
    · have image : lowerChar c = ['i', Char.ofNat 0x307] := by
        rw [← Char.ofNat_toNat c, special]
        decide +kernel
      have letters : IsLowerLetter 'i' ∧ IsLowerLetter (Char.ofNat 0x307) := by decide +kernel
      exact .inr (by simpa [image] using letters)
    · have image : lowerChar c = [Char.ofNat (lowerRuns.image c.toNat)] := by
        rw [lowerChar, if_neg ascii, lowerSpecials, List.lookup_cons, beq_false_of_ne special]
        rfl
      rcases CaseRuns.image_cases c.toNat lowerRuns with same | ⟨run, held, moves⟩
      · exact .inl ⟨by rw [image, same, Char.ofNat_toNat], other⟩
      · have letter := isLowerLetter_of_moves held moves
        exact .inr (by simpa [image] using letter)

/-! ## Lower case of a text -/

/-- Lower case of a character between what is before it, in reverse, and what follows. -/
def lowerAt (before : List Char) (c : Char) (rest : List Char) : List Char :=
  if c == 'Σ' then [if nextCased before && !nextCased rest then 'ς' else 'σ'] else lowerChar c

theorem lowerFrom_cons (before : List Char) (c : Char) (rest : List Char) :
    lowerFrom before (c :: rest) = lowerAt before c rest ++ lowerFrom (c :: before) rest := rfl

theorem sigmas : IsLowerLetter 'ς' ∧ IsLowerLetter 'σ' := by decide +kernel

theorem lowerAt_ne_nil (before : List Char) (c : Char) (rest : List Char) : lowerAt before c rest ≠ [] := by
  unfold lowerAt
  by_cases sigma : c = 'Σ'
  · simp [sigma]
  · rw [if_neg (by simpa using sigma)]
    rcases lowerChar_cases c sigma with lower | ⟨some, -⟩
    · simp [lower.1]
    · exact some

theorem isLower_of_mem_lowerAt {before rest : List Char} {c d : Char} (held : d ∈ lowerAt before c rest) :
    IsLower d ∧ (isBlank c = false → isBlank d = false) := by
  unfold lowerAt at held
  by_cases sigma : c = 'Σ'
  · rw [if_pos (by simpa using sigma)] at held
    have letter : IsLowerLetter d := by
      rw [List.mem_singleton.1 held]
      split
      · exact sigmas.1
      · exact sigmas.2
    exact ⟨letter.1, fun _ => letter.2⟩
  · rw [if_neg (by simpa using sigma)] at held
    rcases lowerChar_cases c sigma with lower | ⟨-, letters⟩
    · rw [lower.1] at held
      cases List.mem_singleton.1 held
      exact ⟨lower, id⟩
    · exact ⟨(letters d held).1, fun _ => (letters d held).2⟩

theorem isLower_of_mem_lowerFrom {d : Char} : ∀ (before cs : List Char), d ∈ lowerFrom before cs → IsLower d
  | before, c :: rest, held => by
    rcases List.mem_append.1 held with first | later
    · exact (isLower_of_mem_lowerAt first).1
    · exact isLower_of_mem_lowerFrom (c :: before) rest later

theorem lowerFrom_of_isLower : ∀ (before cs : List Char), (∀ c ∈ cs, IsLower c) → lowerFrom before cs = cs
  | _, [], _ => rfl
  | before, c :: rest, lower => by
    obtain ⟨image, other⟩ := lower c List.mem_cons_self
    rw [lowerFrom_cons, lowerAt, if_neg (by simpa using other), image,
      lowerFrom_of_isLower (c :: before) rest fun d held => lower d (List.mem_cons_of_mem c held)]
    rfl

theorem lower_lower (s : String) : lower (lower s) = lower s := by
  unfold lower lowerChars
  rw [String.toList_ofList, lowerFrom_of_isLower [] _ fun c => isLower_of_mem_lowerFrom [] _]

/-! ## Lower case of a stripped text -/

/-- Lower case puts something in place of each character, and letters in place of letters. -/
theorem exists_images_lowerFrom : ∀ before cs : List Char, ∃ images,
    lowerFrom before cs = images.flatten ∧ List.Forall₂ (Replaces isBlank) cs images
  | _, [] => ⟨[], rfl, .nil⟩
  | before, c :: rest => by
    obtain ⟨images, whole, replaced⟩ := exists_images_lowerFrom (c :: before) rest
    refine ⟨lowerAt before c rest :: images, ?_, .cons ⟨lowerAt_ne_nil before c rest, ?_⟩ replaced⟩
    · rw [lowerFrom_cons, whole, List.flatten_cons]
    · exact fun solid d held => (isLower_of_mem_lowerAt held).2 solid

theorem strip_lower_strip (s : String) : strip (lower (strip s)) = lower (strip s) := by
  obtain ⟨images, whole, replaced⟩ := exists_images_lowerFrom [] (stripChars s.toList)
  unfold lower strip lowerChars
  simp only [String.toList_ofList, whole]
  exact congrArg String.ofList (trimEnds_flatten replaced (trimEnds_trimEnds _))

end Text

end KeywordSuite
