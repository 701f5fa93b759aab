import KeywordSuite.Proofs.Text.Blank
import KeywordSuite.Proofs.Text.Runs
import KeywordSuite.Text.Upper

/-!
# Full upper case once and for all

Upper case of upper case is the same again, also where several letters come of one, and no blank comes of a letter. So a
text that is stripped and put in upper case stays as it is when both are done once more. Of the two tables the runs are
gone through run by run, and the letters with several images one by one.
-/

namespace KeywordSuite

namespace Text

/-! ## Letters that stay -/

/-- A character that upper case leaves alone. -/
def IsUpper (c : Char) : Prop := upperChar c = [c]

instance (c : Char) : Decidable (IsUpper c) := inferInstanceAs (Decidable (_ = _))

/-- A character of upper case that is not a blank. -/
def IsUpperLetter (c : Char) : Prop := IsUpper c ∧ isBlank c = false

instance (c : Char) : Decidable (IsUpperLetter c) := inferInstanceAs (Decidable (_ ∧ _))

/-- Ranges that hold all letters with several images, and what is no character. -/
def upperApart : CodeRanges := [
    (0xdf, 0xdf), (0x149, 0x149), (0x1f0, 0x1f0), (0x390, 0x390), (0x3b0, 0x3b0), (0x587, 0x587), (0x1e96, 0x1e9a),
    (0x1f50, 0x1f56), (0x1f80, 0x1fb7), (0x1fbc, 0x1fc7), (0x1fcc, 0x1fd7), (0x1fe2, 0x1fe7), (0x1ff2, 0x1ff7),
    (0x1ffc, 0x1ffc), (0xd800, 0xdfff), (0xfb00, 0xfb17)]

theorem upperRuns_settle :
    upperRuns.all (CaseRuns.settles upperRuns upperApart fun c => decide (IsUpper c)) = true := by decide +kernel

theorem upperSpecials_apart : upperSpecials.all (fun special => upperApart.has special.1) = true := by decide +kernel

theorem upperSpecials_settle : ∀ special ∈ upperSpecials,
    special.2 ≠ [] ∧ ∀ n ∈ special.2, IsUpperLetter (Char.ofNat n) := by decide +kernel

theorem lookup_upperSpecials {n : Nat} (own : upperApart.has n = false) : upperSpecials.lookup n = none := by
  rw [List.lookup_eq_none_iff]
  intro special held
  have apart := List.all_eq_true.1 upperSpecials_apart special held
  refine bne_iff_ne.2 ?_
  rintro rfl
  rw [own] at apart
  cases apart

theorem isUpper_of_beyond {n : Nat} (beyond : 128 ≤ n) (still : upperRuns.image n = n)
    (own : upperApart.has n = false) (bounded : n < 0x110000) : IsUpper (Char.ofNat n) ∧ (Char.ofNat n).toNat = n := by
  have valid : n < 0xd800 ∨ 0xdfff < n := by
    simp only [upperApart, CodeRanges.has] at own
    grind
  have code : (Char.ofNat n).toNat = n := toNat_ofNat_of_valid (by omega)
  refine ⟨?_, code⟩
  unfold IsUpper upperChar
  rw [code, if_neg (by omega), lookup_upperSpecials own]
  simp only [still]

theorem isUpperLetter_of_moves {run : Nat × Nat × Nat × Int} (held : run ∈ upperRuns) {n m : Nat}
    (moves : CaseRuns.Moves run n m) : IsUpperLetter (Char.ofNat m) := by
  obtain ⟨bounded, blank, ⟨beyond, still, own⟩ | ⟨ascii, upper⟩⟩ :=
    CaseRuns.settled_of_moves (List.all_eq_true.1 upperRuns_settle run held) moves
  · obtain ⟨upper, code⟩ := isUpper_of_beyond beyond still own bounded
    exact ⟨upper, by rw [isBlank, code, blank]⟩
  · exact ⟨of_decide_eq_true upper, by rw [isBlank, toNat_ofNat_of_valid (by omega), blank]⟩

theorem upperChar_ascii : ∀ n : Fin 128, IsUpper (Char.ofNat n) ∨
    ∃ d, upperChar (Char.ofNat n) = [d] ∧ IsUpperLetter d := by
  have table : ∀ n : Fin 128, IsUpper (Char.ofNat n) ∨ IsUpperLetter (Char.ofNat n).toUpper := by decide +kernel
  intro n
  refine (table n).imp_right fun letter => ⟨_, ?_, letter⟩
  rw [upperChar, toNat_ofNat_of_valid (by omega), if_pos n.isLt]

/-- A character is of upper case, or letters of upper case come of it. -/
theorem upperChar_cases (c : Char) : IsUpper c ∨ upperChar c ≠ [] ∧ ∀ d ∈ upperChar c, IsUpperLetter d := by
  by_cases ascii : c.toNat < 128
  · have cases := upperChar_ascii ⟨c.toNat, ascii⟩
    simp only [Char.ofNat_toNat] at cases
    refine cases.imp_right ?_
    rintro ⟨d, image, letter⟩
    simpa [image] using letter
  · cases found : upperSpecials.lookup c.toNat with
    | some codes =>
      have image : upperChar c = codes.map Char.ofNat := by rw [upperChar, if_neg ascii, found]
      obtain ⟨_, _, before, -⟩ := List.lookup_eq_some_iff.1 found
      obtain ⟨some, letters⟩ := upperSpecials_settle (c.toNat, codes) (by simp [before])
      exact .inr (by simpa [image] using ⟨some, letters⟩)
    | none =>
      have image : upperChar c = [Char.ofNat (upperRuns.image c.toNat)] := by rw [upperChar, if_neg ascii, found]
      rcases CaseRuns.image_cases c.toNat upperRuns with same | ⟨run, held, moves⟩
      · exact .inl (by rw [IsUpper, image, same, Char.ofNat_toNat])
      · have letter := isUpperLetter_of_moves held moves
        exact .inr (by simpa [image] using letter)

/-! ## Upper case of a text -/

theorem isUpper_of_mem_upperChar {c d : Char} (held : d ∈ upperChar c) : IsUpper d := by
  rcases upperChar_cases c with upper | ⟨-, letters⟩
  · rw [upper] at held
    exact List.mem_singleton.1 held ▸ upper
  · exact (letters d held).1

/-- Something comes of each character, and letters come of letters. -/
theorem replaces_upperChar (c : Char) : Replaces isBlank c (upperChar c) := by
  rcases upperChar_cases c with upper | ⟨some, letters⟩
  · rw [upper]
    exact ⟨List.cons_ne_nil c [], fun solid d held => List.mem_singleton.1 held ▸ solid⟩
  · exact ⟨some, fun _ d held => (letters d held).2⟩

theorem upperChars_of_isUpper : ∀ cs : List Char, (∀ c ∈ cs, IsUpper c) → upperChars cs = cs
  | [], _ => rfl
  | c :: rest, upper => by
    have first : upperChar c = [c] := upper c List.mem_cons_self
    have others := upperChars_of_isUpper rest fun d held => upper d (List.mem_cons_of_mem c held)
    unfold upperChars at others ⊢
    rw [List.flatMap_cons, first, others]
    rfl

theorem upper_upper (s : String) : upper (upper s) = upper s := by
  unfold upper
  rw [String.toList_ofList, upperChars_of_isUpper]
  intro d held
  obtain ⟨c, -, image⟩ := List.mem_flatMap.1 held
  exact isUpper_of_mem_upperChar image

theorem strip_upper_strip (s : String) : strip (upper (strip s)) = upper (strip s) := by
  have replaced : ∀ cs : List Char, List.Forall₂ (Replaces isBlank) cs (cs.map upperChar) := by
    intro cs
    rw [List.forall₂_map_right_iff]
    exact List.forall₂_same.2 fun c _ => replaces_upperChar c
  unfold upper strip upperChars
  simp only [String.toList_ofList, List.flatMap_def]
  exact congrArg String.ofList (trimEnds_flatten (replaced _) (trimEnds_trimEnds _))

end Text

end KeywordSuite
