import KeywordSuite.Proofs.Sanitizer.Again

/-!
# What a sanitized text keeps

A sanitized text is the text with some stretches under masks; nothing else of it is altered, dropped, doubled
or moved. A pattern that runs over the masks of another one tears none of them: its secrets have no star, or they
begin and end beside a character that is no star, and then the masks inside go under the new one as a whole.
-/

namespace KeywordSuite

open Glyph

/-- A stretch of a text that goes under a mask, and what is kept behind it. -/
structure Stretch where
  covered : List Char
  kept : List Char
  covers : covered ≠ []

/-- A text of which some stretches go under a mask each. -/
structure Redaction where
  opening : List Char
  stretches : List Stretch

namespace Redaction

def original (r : Redaction) : List Char := r.opening ++ r.stretches.flatMap fun s => s.covered ++ s.kept

def shown (r : Redaction) : List Char := r.opening ++ r.stretches.flatMap fun s => mask ++ s.kept

/-- A redaction behind one more character that is kept. -/
def keep (c : Char) (r : Redaction) : Redaction := ⟨c :: r.opening, r.stretches⟩

/-- A redaction behind one more stretch that is covered. -/
def cover (s : List Char) (covers : s ≠ []) (r : Redaction) : Redaction := ⟨[], ⟨s, r.opening, covers⟩ :: r.stretches⟩

variable {r : Redaction} {c : Char} {s : List Char} {covers : s ≠ []}

@[simp] theorem original_keep : (r.keep c).original = c :: r.original := rfl

@[simp] theorem shown_keep : (r.keep c).shown = c :: r.shown := rfl

@[simp] theorem original_cover : (r.cover s covers).original = s ++ r.original := by
  simp [cover, original]

@[simp] theorem shown_cover : (r.cover s covers).shown = mask ++ r.shown := by
  simp [cover, shown]

end Redaction

theorem Veils.exists_redaction {gs out : List Glyph} (h : Veils gs out) :
    ∃ r : Redaction, r.original = chars gs ∧ r.shown = chars out := by
  induction h with
  | nil => exact ⟨⟨[], []⟩, rfl, rfl⟩
  | keep g _ ih =>
    obtain ⟨r, original, shown⟩ := ih
    exact ⟨r.keep g.char, by simp [original], by simp [shown]⟩
  | @hide s _ _ some _ ih =>
    obtain ⟨r, original, shown⟩ := ih
    have covers : chars s ≠ [] := by simpa [chars] using some
    exact ⟨r.cover (chars s) covers, by simp [original], by simp [shown]⟩

/-! ## Masks over masks -/

theorem clear_of_star_ne {g : Glyph} (other : g.char ≠ '*') : g ∉ veil := by
  intro masks
  rw [eq_of_mem_veil masks] at other
  exact other rfl

namespace Veils

variable {gs x s y : List Glyph} {c d : Glyph}

theorem cover_clear (h : Veils gs (x ++ (s ++ y))) (clear : ∀ g ∈ s, g ∉ veil) (some : s ≠ []) :
    Veils gs (x ++ (veil ++ y)) := by
  obtain ⟨x₀, y₀, rfl, hx, hy⟩ := h.infix_of_clear clear some
  exact hx.append (hide some hy)

/-- Between two characters of the text every mask is there as a whole, and all of them go under one. -/
theorem cover_between (h : Veils gs (x ++ c :: (s ++ d :: y))) (before : c ∉ veil) (after : d ∉ veil) (some : s ≠ []) :
    Veils gs (x ++ c :: (veil ++ d :: y)) := by
  obtain ⟨x₀, r₀, rfl, hx, hr⟩ := h.split_right rfl before
  obtain ⟨s₀, y₀, rfl, hs, hy⟩ := hr.split_right rfl after
  have some₀ : s₀ ≠ [] := by
    rintro rfl
    exact some hs.nil_left
  exact hx.append (keep c (hide some₀ (keep d hy)))

end Veils

namespace CredentialPattern

variable {p : CredentialPattern} {cs : List Char}

/-- A pattern whose secrets have no star, or stand between two characters that are no stars. -/
def TearsNoMask (p : CredentialPattern) : Prop :=
  ∀ previous b s a rest, p.Matches previous b s a rest →
    '*' ∉ s ∨ ∃ b' c d a', b = b' ++ [c] ∧ a = d :: a' ∧ c ≠ '*' ∧ d ≠ '*'

theorem Passes.veils_of_veils {n : Nat} {previous : Option Char} {gs₀ gs out : List Glyph} {hs : List (Nat × Match)}
    (whole : p.TearsNoMask) (run : p.Passes n previous gs hs out) (before : Veils gs₀ gs) : Veils gs₀ out := by
  -- A mask may reach over the place where the run has come to, so what the run has left is carried along.
  suffices every : ∀ w, Veils gs₀ (w ++ gs) → Veils gs₀ (w ++ out) from every [] before
  clear before
  induction run with
  | nil => exact fun w h => h
  | @keep n previous g gs out hs none run ih =>
    intro w h
    rw [List.append_cons] at h ⊢
    exact ih (w ++ [g]) h
  | @hide n previous b s a rest out hs shape some run ih =>
    intro w h
    have covered : Veils gs₀ (w ++ (b ++ (veil ++ (a ++ rest)))) := by
      obtain starless | ⟨b', c, d, a', front, back, before, after⟩ := whole _ _ _ _ _ shape
      · rw [← List.append_assoc] at h ⊢
        exact h.cover_clear (clear_of_star_not_mem starless) some
      · obtain ⟨b, _, rfl, -, single⟩ := List.map_eq_append_iff.mp front
        obtain ⟨c, rfl, rfl⟩ := List.map_eq_singleton_iff.mp single
        obtain ⟨d, a, rfl, rfl, -⟩ := List.map_eq_cons_iff.mp back
        have h : Veils gs₀ (w ++ b ++ c :: (s ++ d :: (a ++ rest))) := by simpa using h
        have covered := h.cover_between (clear_of_star_ne before) (clear_of_star_ne after) some
        simpa using covered
    have later := ih (w ++ (b ++ (veil ++ a))) (by simpa using covered)
    simpa using later

/-- Whether a pattern matches somewhere in a text. -/
def MatchesIn (p : CredentialPattern) (cs : List Char) : Prop :=
  ∃ x y, cs = x ++ y ∧ p.matchAt? (Piece.lastOf none x) y ≠ none

theorem maskText_of_not_matchesIn (secret : p.HasSecret) (absent : ¬ p.MatchesIn cs) : p.maskText cs = cs := by
  refine maskText_eq_self secret fun x b s a y cut shape => ?_
  exact absurd ⟨x, _, cut, by simp [shape.matchAt?]⟩ absent

end CredentialPattern

namespace Credential

theorem bearerToken_tearsNoMask : bearerToken.TearsNoMask := fun _ _ _ _ _ h => .inl (bearer_shape h).2.1.star_not_mem

theorem urlCredentials_tearsNoMask : urlCredentials.TearsNoMask := by
  intro previous b s a rest h
  obtain ⟨b', c, front, star⟩ := urlCredentials_standsApart.starts h
  exact .inr ⟨b', c, '@', [], front, (url_shape h).2.2, star, by decide⟩

end Credential

namespace Sanitizer

open Credential

theorem veils_trace (cs : List Char) : Veils (label 0 cs) (standard.trace cs) := by
  have tokens : Veils (label 0 cs) (afterTokens cs) :=
    (CredentialPattern.passes_trace hasSecret_bearerToken _).veils_of_veils bearerToken_tearsNoMask (veils_keys cs)
  exact (CredentialPattern.passes_trace hasSecret_urlCredentials _).veils_of_veils urlCredentials_tearsNoMask tokens

theorem sanitizeChars_of_not_matchesIn {cs : List Char} (absent : ∀ p ∈ defaultPatterns, ¬ p.MatchesIn cs) :
    standard.sanitizeChars cs = cs := by
  simp only [defaultPatterns, List.forall_mem_cons] at absent
  obtain ⟨keys, tokens, urls, -⟩ := absent
  rw [sanitizeChars_standard, CredentialPattern.maskText_of_not_matchesIn hasSecret_keyValue keys,
    CredentialPattern.maskText_of_not_matchesIn hasSecret_bearerToken tokens,
    CredentialPattern.maskText_of_not_matchesIn hasSecret_urlCredentials urls]

/-- With the default patterns a sanitized text is the text with stretches of it replaced by masks, and there is
no such stretch where no pattern matches. -/
theorem sanitizeString_redacts (keys : List String) (t : String) :
    ∃ r : Redaction, String.ofList r.original = t ∧ String.ofList r.shown = (new keys).sanitizeString t ∧
      ((∀ p ∈ defaultPatterns, ¬ p.MatchesIn t.toList) → r.stretches = []) := by
  have same : (new keys).sanitizeString t = String.ofList (standard.sanitizeChars t.toList) := rfl
  rw [same]
  by_cases absent : ∀ p ∈ defaultPatterns, ¬ p.MatchesIn t.toList
  · refine ⟨⟨t.toList, []⟩, ?_, ?_, fun _ => rfl⟩
    · simp [Redaction.original]
    · simp [Redaction.shown, sanitizeChars_of_not_matchesIn absent]
  · obtain ⟨r, original, shown⟩ := (veils_trace t.toList).exists_redaction
    refine ⟨r, ?_, ?_, fun h => absurd h absent⟩
    · rw [original, chars_label, String.ofList_toList]
    · rw [shown, chars_trace]

end Sanitizer

end KeywordSuite
