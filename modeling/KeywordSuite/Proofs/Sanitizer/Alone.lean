import KeywordSuite.Proofs.Sanitizer.Again
import KeywordSuite.Proofs.Sanitizer.Backtracking

/-!
# One pass of one pattern

A pattern that has run over a text finds nothing more in it that is not masked, so a second pass changes nothing.
That holds of each default pattern by itself, and of a search that goes back as well.
-/

namespace KeywordSuite

open Credential

variable {cs x rest : List Char} {m : Match} {p : CredentialPattern}

theorem CredentialPattern.take_secret_eq {previous : Option Char} (found : p.matchAt? previous rest = some m)
    {t : List Char} (masks : ∀ b s a y, rest = b ++ (s ++ (a ++ y)) → p.Matches previous b s a y → s = t) :
    (rest.drop m.before).take m.secret = t := by
  obtain ⟨b, s, a, y, split, shape, rfl⟩ := exists_matches found
  rw [← masks b s a y split shape, split, List.drop_left, List.take_left]

theorem keyValue_masked (cut : keyValue.maskText cs = x ++ rest) (found : keyValue.matchAt? (Piece.lastOf none x) rest = some m) :
    (rest.drop m.before).take m.secret = mask :=
  CredentialPattern.take_secret_eq found fun _ _ _ _ split shape => eq_mask_of_keyValue (split ▸ cut) shape

theorem urlCredentials_masked (cut : urlCredentials.maskText cs = x ++ rest)
    (found : urlCredentials.matchAt? (Piece.lastOf none x) rest = some m) : (rest.drop m.before).take m.secret = mask :=
  CredentialPattern.take_secret_eq found fun b s a y split shape =>
    passwordsMasked_urlCredentials cs x b s a y (split ▸ cut) shape

theorem matchAt?_bearerToken_eq_none (cut : bearerToken.maskText cs = x ++ rest) :
    bearerToken.matchAt? (Piece.lastOf none x) rest = none := by
  cases found : bearerToken.matchAt? (Piece.lastOf none x) rest with
  | none => rfl
  | some m =>
    obtain ⟨b, s, a, y, split, shape, -⟩ := CredentialPattern.exists_matches found
    obtain ⟨announced, token, -⟩ := bearer_shape shape
    exact absurd token (tokensMasked_bearerToken cs x b s (a ++ y) (split ▸ cut) announced)

theorem maskText_maskText (default : p ∈ Sanitizer.defaultPatterns) (cs : List Char) :
    p.maskText (p.maskText cs) = p.maskText cs := by
  simp only [Sanitizer.defaultPatterns, List.mem_cons, List.not_mem_nil, or_false] at default
  rcases default with rfl | rfl | rfl
  · exact CredentialPattern.maskText_eq_self hasSecret_keyValue fun _ _ _ _ _ => eq_mask_of_keyValue
  · exact (tokensMasked_bearerToken cs).maskText_eq_self
  · exact (passwordsMasked_urlCredentials cs).maskText_eq_self

/--
After one pass of a default pattern, all that a search with it finds anywhere in the text is masked, and a search for
tokens finds nothing; so a second pass changes nothing. Searching with and without going back find the same.
-/
theorem single_pass_is_complete (cs : List Char) :
    (∀ p ∈ [keyValue, urlCredentials], ∀ x rest m, p.maskText cs = x ++ rest →
        p.search? (Piece.lastOf none x) rest = some m → (rest.drop m.before).take m.secret = mask) ∧
      (∀ x rest, bearerToken.maskText cs = x ++ rest → bearerToken.search? (Piece.lastOf none x) rest = none) ∧
      ∀ p ∈ Sanitizer.defaultPatterns, (∀ previous text, p.search? previous text = p.matchAt? previous text) ∧
        p.maskText (p.maskText cs) = p.maskText cs := by
  refine ⟨?masked, ?tokens, fun p default => ⟨search?_eq_of_default default, maskText_maskText default cs⟩⟩
  case masked =>
    intro p among x rest m cut found
    simp only [List.mem_cons, List.not_mem_nil, or_false] at among
    rcases among with rfl | rfl
    · rw [search?_eq_of_default (by simp [Sanitizer.defaultPatterns])] at found
      exact keyValue_masked cut found
    · rw [search?_eq_of_default (by simp [Sanitizer.defaultPatterns])] at found
      exact urlCredentials_masked cut found
  case tokens =>
    intro x rest cut
    rw [search?_eq_of_default (by simp [Sanitizer.defaultPatterns])]
    exact matchAt?_bearerToken_eq_none cut

/-- A text in which each of the patterns masks a credential. -/
theorem single_pass_is_complete_of_three :
    let cs := "pwd='a' http://u:p@h Bearer x=".toList
    let masked := "http://u:********@h Bearer x=".toList
    keyValue.maskText cs = [] ++ "pwd='********' http://u:p@h Bearer x=".toList ∧
      urlCredentials.maskText cs = "pwd='a' ".toList ++ masked ∧
      urlCredentials.search? (some ' ') masked = some ⟨9, 8, 1⟩ ∧ (masked.drop 9).take 8 = mask ∧
      bearerToken.search? (some ' ') "Bearer ********".toList = none ∧
      keyValue.maskText (keyValue.maskText cs) = keyValue.maskText cs := by
  intro cs masked
  obtain ⟨secrets, tokens, again⟩ := single_pass_is_complete cs
  have keys : keyValue.maskText cs = [] ++ "pwd='********' http://u:p@h Bearer x=".toList := by decide +kernel
  have login : urlCredentials.maskText cs = "pwd='a' ".toList ++ masked := by decide +kernel
  have bearer : bearerToken.maskText cs = "pwd='a' http://u:p@h ".toList ++ "Bearer ********".toList := by decide +kernel
  have found : urlCredentials.search? (some ' ') masked = some ⟨9, 8, 1⟩ := by decide +kernel
  exact ⟨keys, login, found, secrets _ (by simp) _ _ _ login found, tokens _ _ bearer, (again _ (by simp [Sanitizer.defaultPatterns])).2⟩

end KeywordSuite
