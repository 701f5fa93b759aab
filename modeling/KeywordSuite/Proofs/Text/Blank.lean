import KeywordSuite.Text.Blank
import Mathlib.Data.List.DropRight
import Mathlib.Data.List.Forall2

/-!
# Texts without the blanks around them

A text is stripped once and for all, and nothing is left exactly of a blank one. It stays stripped if something is put
in place of each character, and no blank in place of one that is none.
-/

namespace KeywordSuite

namespace Text

variable {p : Char → Bool} {blanks : List Char}

theorem trimEnds_eq_nil_iff {cs : List Char} : trimEnds p cs = [] ↔ ∀ c ∈ cs, p c := by
  have right : trimEnds p cs = [] ↔ ∀ c ∈ cs.dropWhile p, p c := List.rdropWhile_eq_nil_iff
  rw [right, ← List.dropWhile_eq_nil_iff, List.dropWhile_idempotent, List.dropWhile_eq_nil_iff]

theorem trimEnds_trimEnds (cs : List Char) : trimEnds p (trimEnds p cs) = trimEnds p cs := by
  have starts : (trimEnds p cs).dropWhile p = trimEnds p cs := by
    obtain ⟨dropped, whole⟩ : trimEnds p cs <+: cs.dropWhile p := List.rdropWhile_prefix p _
    cases trimmed : trimEnds p cs with
    | nil => rfl
    | cons c rest =>
      -- What is left begins where dropping from the left stopped.
      rw [trimmed] at whole
      have stopped := List.dropWhile_get_zero_not p cs
      rw [← whole] at stopped
      exact List.dropWhile_cons_of_neg (stopped (Nat.succ_pos _))
  have ends : List.rdropWhile p (trimEnds p cs) = trimEnds p cs := List.rdropWhile_idempotent p _
  unfold trimEnds at starts ends ⊢
  rw [starts]
  exact ends

theorem trimEnds_append_left (blank : ∀ c ∈ blanks, p c) (cs : List Char) :
    trimEnds p (blanks ++ cs) = trimEnds p cs := by
  unfold trimEnds
  rw [List.dropWhile_append_of_pos blank]

theorem trimEnds_append_right (blank : ∀ c ∈ blanks, p c) (cs : List Char) :
    trimEnds p (cs ++ blanks) = trimEnds p cs := by
  unfold trimEnds
  rw [List.dropWhile_append]
  split
  · rename_i nothing
    rw [List.isEmpty_iff] at nothing
    rw [nothing, List.dropWhile_eq_nil_iff.2 blank]
  · rw [List.reverse_append, List.dropWhile_append_of_pos fun c held => blank c (List.mem_reverse.1 held)]

theorem head?_trimEnds (cs : List Char) : (trimEnds p cs).head? = (cs.dropWhile p).head? := by
  obtain ⟨dropped, whole⟩ : trimEnds p cs <+: cs.dropWhile p := List.rdropWhile_prefix p _
  cases trimmed : trimEnds p cs with
  | nil => rw [List.dropWhile_eq_nil_iff.2 (trimEnds_eq_nil_iff.1 trimmed)]
  | cons c rest =>
    rw [trimmed] at whole
    rw [← whole]
    rfl

theorem exists_eq_trimEnds (cs : List Char) : ∃ before after,
    cs = before ++ trimEnds p cs ++ after ∧ (∀ c ∈ before, p c) ∧ ∀ c ∈ after, p c := by
  refine ⟨cs.takeWhile p, List.rtakeWhile p (cs.dropWhile p), ?_, fun c => List.mem_takeWhile_imp,
    fun c => List.mem_rtakeWhile_imp⟩
  have right : trimEnds p cs ++ List.rtakeWhile p (cs.dropWhile p) = cs.dropWhile p :=
    List.rdropWhile_append_rtakeWhile ..
  rw [List.append_assoc, right, List.takeWhile_append_dropWhile]

theorem trimEnds_eq_self_iff {cs : List Char} :
    trimEnds p cs = cs ↔ cs.dropWhile p = cs ∧ cs.rdropWhile p = cs := by
  constructor
  · intro whole
    have left : cs.dropWhile p = cs := by
      have kept : cs <+: cs.dropWhile p := by
        conv_lhs => rw [← whole]
        exact List.rdropWhile_prefix p _
      exact (List.dropWhile_suffix p).eq_of_length_le kept.length_le
    refine ⟨left, ?_⟩
    conv_rhs => rw [← whole]
    conv_lhs => rw [← left]
    rfl
  · rintro ⟨left, right⟩
    unfold trimEnds
    rw [left]
    exact right

/-! ## A text in place of each character -/

/-- What is put in place of a character is not empty, and has nothing of `p` in it if the character is not of `p`. -/
def Replaces (p : Char → Bool) (c : Char) (image : List Char) : Prop :=
  image ≠ [] ∧ (p c = false → ∀ d ∈ image, p d = false)

theorem Replaces.reverse {c : Char} {image : List Char} (h : Replaces p c image) : Replaces p c image.reverse :=
  ⟨by simpa using h.1, by simpa using h.2⟩

variable {cs : List Char} {images : List (List Char)}

theorem dropWhile_flatten (replaced : List.Forall₂ (Replaces p) cs images) (clear : cs.dropWhile p = cs) :
    images.flatten.dropWhile p = images.flatten := by
  cases replaced with
  | nil => rfl
  | @cons c image _ _ first _ =>
    have solid : p c = false := by simpa using List.dropWhile_eq_self_iff.1 clear (Nat.succ_pos _)
    obtain ⟨d, ds, rfl⟩ := List.exists_cons_of_ne_nil first.1
    exact List.dropWhile_cons_of_neg (by simp [first.2 solid d List.mem_cons_self])

theorem trimEnds_flatten (replaced : List.Forall₂ (Replaces p) cs images) (whole : trimEnds p cs = cs) :
    trimEnds p images.flatten = images.flatten := by
  obtain ⟨left, right⟩ := trimEnds_eq_self_iff.1 whole
  refine trimEnds_eq_self_iff.2 ⟨dropWhile_flatten replaced left, ?_⟩
  -- The right end is the left end of the reverse.
  have back : List.Forall₂ (Replaces p) cs.reverse (images.map List.reverse).reverse := by
    refine List.rel_reverse ?_
    rw [List.forall₂_map_right_iff]
    exact replaced.imp fun _ _ => Replaces.reverse
  have clear : cs.reverse.dropWhile p = cs.reverse := List.reverse_eq_iff.1 right
  have still := dropWhile_flatten back clear
  rw [← List.reverse_flatten] at still
  exact List.reverse_eq_iff.2 still

theorem strip_strip (s : String) : strip (strip s) = strip s := by
  unfold strip stripChars
  rw [String.toList_ofList, trimEnds_trimEnds]

theorem strip_eq_empty_iff {s : String} : strip s = "" ↔ isBlankText s = true := by
  unfold strip stripChars isBlankText
  rw [List.all_eq_true, ← trimEnds_eq_nil_iff]
  exact ⟨fun h => by simpa using congrArg String.toList h, fun h => by rw [h]⟩

end Text

end KeywordSuite
