import KeywordSuite.Proofs.Sanitizer.Pieces

/-!
# The shapes of credentials

What a match of each of the standard patterns looks like, and what is always matched.
-/

namespace KeywordSuite

namespace Piece

/-- Letters beyond ASCII that are taken for an ASCII letter. -/
def strangeLetters : List Char := ['ı', 'İ', 'ſ', '\u212a']

variable {c : Char}

theorem code_of_isFoldedLetter (h : isFoldedLetter c = true) :
    c ∈ strangeLetters ∨ (65 ≤ c.toNat ∧ c.toNat ≤ 90) ∨ (97 ≤ c.toNat ∧ c.toNat ≤ 122) := by
  by_cases strange : c ∈ strangeLetters
  · exact .inl strange
  · right
    have folded : foldChar c = c.toLower := by
      rw [foldChar, if_neg, if_neg, if_neg] <;> simp_all [strangeLetters]
    rw [isFoldedLetter, folded, Bool.and_eq_true, decide_eq_true_eq, decide_eq_true_eq] at h
    delta Char.toLower at h
    split at h
    · rename_i upper
      exact .inl ⟨upper.1, upper.2⟩
    · exact .inr ⟨h.1, h.2⟩

theorem isWord_of_isFoldedLetter (h : isFoldedLetter c = true) : Text.isWord c = true := by
  obtain strange | ascii := code_of_isFoldedLetter h
  · exact List.all_eq_true.mp (by decide +kernel : strangeLetters.all Text.isWord = true) c strange
  · have : c.toNat < 128 := by omega
    rw [Text.isWord, if_pos this]
    have letter : c.isAlpha = true := by
      delta Char.isAlpha Char.isUpper Char.isLower
      simpa [UInt32.le_iff_toNat_le] using ascii
    rw [Char.isAlphanum, letter, Bool.true_or, Bool.true_or]

theorem isBlank_of_isFoldedLetter (h : isFoldedLetter c = true) : Text.isBlank c = false := by
  obtain strange | ascii := code_of_isFoldedLetter h
  · simpa using List.all_eq_true.mp (by decide +kernel : strangeLetters.all (!Text.isBlank ·) = true) c strange
  · simp only [Text.isBlank, Text.blankRanges, Text.CodeRanges.has]
    grind

end Piece

namespace Credential

open Piece

variable {previous : Option Char} {b s a rest v u : List Char} {c : Char}

theorem isBlank_of_isTokenChar (h : isTokenChar c = true) : Text.isBlank c = false := by
  simp only [isTokenChar, Bool.or_eq_true, decide_eq_true_eq] at h
  obtain ((((((letter | digit) | rfl) | rfl) | rfl) | rfl) | rfl) | rfl := h
  · exact isBlank_of_isFoldedLetter letter
  · have bounds : 48 ≤ c.toNat ∧ c.toNat ≤ 57 := by
      simpa [Char.isDigit, UInt32.le_iff_toNat_le] using digit
    simp only [Text.isBlank, Text.blankRanges, Text.CodeRanges.has]
    grind
  all_goals decide

theorem isValueChar_of_isTokenChar (h : isTokenChar c = true) : isValueChar c = true := by
  have plain : c ∉ ['"', '\'', ',', ';'] := by
    intro member
    have refused := List.all_eq_true.mp
      (by decide +kernel : ['"', '\'', ',', ';'].all (!isTokenChar ·) = true) c member
    simp [h] at refused
  simp only [List.mem_cons, List.not_mem_nil, or_false, not_or] at plain
  simp [isValueChar, isQuote, isBlank_of_isTokenChar h, plain]

/-- The word that announces a token, and the space after it. -/
def IsBearer (b : List Char) : Prop :=
  ∃ word gap, b = word ++ gap ∧ word.map foldChar = "bearer".toList ∧ gap ≠ [] ∧ ∀ c ∈ gap, Text.isBlank c = true

def IsToken (v : List Char) : Prop :=
  ∃ body pad, v = body ++ pad ∧ body ≠ [] ∧ (∀ c ∈ body, isTokenChar c = true) ∧ ∀ c ∈ pad, c = '='

theorem bearer_shape (h : bearerToken.Matches previous b s a rest) : IsBearer b ∧ IsToken s ∧ a = [] := by
  obtain ⟨before, secret, after⟩ := h
  simp only [bearerToken, takesAll_cons, takesAll_nil, takes_word, takes_run, decide_eq_true_eq] at before secret after
  obtain ⟨word, _, rfl, folded, gap, _, rfl, ⟨some, blank, -⟩, rfl⟩ := before
  obtain ⟨body, _, rfl, ⟨some', token, -⟩, pad, _, rfl, ⟨-, pads, -⟩, rfl⟩ := secret
  rw [List.append_nil, List.append_nil]
  exact ⟨⟨word, gap, rfl, folded, List.length_pos_iff.mp some, blank⟩,
    ⟨body, pad, rfl, List.length_pos_iff.mp some', token, pads⟩, after⟩

theorem IsToken.ne_nil (h : IsToken v) : v ≠ [] := by
  obtain ⟨body, pad, rfl, some, -, -⟩ := h
  exact List.append_ne_nil_of_left_ne_nil some pad

theorem IsToken.left (h : IsToken (v ++ u)) (some : v ≠ []) : IsToken v := by
  obtain ⟨body, pad, split, filled, token, pads⟩ := h
  obtain ⟨more, rfl, rfl⟩ | ⟨more, rfl, rfl⟩ := List.append_eq_append_iff.mp split
  · exact ⟨v, [], by simp, some, fun c member => token c (List.mem_append_left _ member), by simp⟩
  · exact ⟨body, more, rfl, filled, token, fun c member => pads c (List.mem_append_left _ member)⟩

theorem IsToken.isValueChar (h : IsToken v) : ∀ c ∈ v, isValueChar c = true := by
  obtain ⟨body, pad, rfl, -, token, pads⟩ := h
  intro c member
  obtain member | member := List.mem_append.mp member
  · exact isValueChar_of_isTokenChar (token c member)
  · rw [pads c member]
    decide

theorem bearer_matches_of {word gap body pad : List Char} (previous : Option Char)
    (folded : word.map foldChar = "bearer".toList) (some : gap ≠ []) (blank : ∀ c ∈ gap, Text.isBlank c = true)
    (filled : body ≠ []) (token : ∀ c ∈ body, isTokenChar c = true) (pads : ∀ c ∈ pad, c = '=')
    (ends : ∀ c ∈ (pad ++ rest).head?, isTokenChar c = false) (padded : ∀ c ∈ rest.head?, c ≠ '=') :
    bearerToken.Matches previous (word ++ gap) (body ++ pad) [] rest := by
  refine ⟨?_, ?_, rfl⟩
  · simp only [bearerToken, takesAll_cons, takesAll_nil, takes_word, takes_run]
    refine ⟨word, gap, rfl, folded, gap, [], by simp, ⟨List.length_pos_iff.mpr some, blank, ?_⟩, rfl⟩
    cases body with
    | nil => exact absurd rfl filled
    | cons d body => simpa using isBlank_of_isTokenChar (token d List.mem_cons_self)
  · simp only [bearerToken, takesAll_cons, takesAll_nil, takes_run, decide_eq_true_eq, decide_eq_false_iff_not]
    exact ⟨body, pad, rfl, ⟨List.length_pos_iff.mpr filled, token, ends⟩, pad, [], by simp,
      ⟨Nat.zero_le _, pads, padded⟩, rfl⟩

theorem exists_run (allowed : Char → Bool) (cs : List Char) :
    ∃ u rest, cs = u ++ rest ∧ (∀ c ∈ u, allowed c = true) ∧ ∀ c ∈ rest.head?, allowed c = false := by
  refine ⟨cs.takeWhile allowed, cs.dropWhile allowed, List.takeWhile_append_dropWhile.symm,
    fun c member => List.mem_takeWhile_imp member, ?_⟩
  intro c first
  have stops := List.head?_dropWhile_not allowed cs
  rw [Option.mem_def] at first
  rw [first] at stops
  simpa using stops

/-- A token that is announced is matched as far as it goes. -/
theorem bearer_matches (previous : Option Char) (cs : List Char) (announced : IsBearer b) (h : IsToken v) :
    ∃ u rest, cs = u ++ rest ∧ bearerToken.Matches previous b (v ++ u) [] rest := by
  obtain ⟨word, gap, rfl, folded, some, blank⟩ := announced
  obtain ⟨body, pad, rfl, filled, token, pads⟩ := h
  cases pad with
  | nil =>
    obtain ⟨more, others, rfl, longer, ends⟩ := exists_run isTokenChar cs
    obtain ⟨pad, rest, rfl, pads, padded⟩ := exists_run (· = '=') others
    simp only [decide_eq_true_eq, decide_eq_false_iff_not] at pads padded
    refine ⟨more ++ pad, rest, by simp, ?_⟩
    have whole : bearerToken.Matches previous (word ++ gap) (body ++ more ++ pad) [] rest :=
      bearer_matches_of previous folded some blank (by simp [filled]) (List.forall_mem_append.mpr ⟨token, longer⟩)
        pads ends padded
    simpa using whole
  | cons d pad =>
    obtain ⟨more, rest, rfl, longer, padded⟩ := exists_run (· = '=') cs
    simp only [decide_eq_true_eq, decide_eq_false_iff_not] at longer padded
    refine ⟨more, rest, rfl, ?_⟩
    have starts : ∀ c ∈ (d :: pad ++ more ++ rest).head?, isTokenChar c = false := by
      intro c first
      cases first
      rw [pads d List.mem_cons_self]
      decide
    have whole := bearer_matches_of previous folded some blank filled token
      (List.forall_mem_append.mpr ⟨pads, longer⟩) starts padded
    simpa using whole

theorem IsBearer.first (h : IsBearer b) : ∃ c b', b = c :: b' ∧ foldChar c = 'b' ∧ ∀ d ∈ b', foldChar d ≠ 'b' := by
  obtain ⟨word, gap, rfl, folded, -, blank⟩ := h
  have folded : word.map foldChar = ['b', 'e', 'a', 'r', 'e', 'r'] := folded
  cases word with
  | nil => cases folded
  | cons c word =>
    obtain ⟨first, others⟩ := List.cons.inj folded
    refine ⟨c, word ++ gap, rfl, first, ?_⟩
    intro d member letter
    obtain member | member := List.mem_append.mp member
    · have inside : 'b' ∈ word.map foldChar := List.mem_map.mpr ⟨d, member, letter⟩
      rw [others] at inside
      exact absurd inside (by decide)
    · have plain : isFoldedLetter d = true := by rw [isFoldedLetter, letter]; decide
      exact absurd (isBlank_of_isFoldedLetter plain) (by simp [blank d member])

/-- A scheme and a user name in front of a password; no word runs into the scheme. -/
def IsLogin (previous : Option Char) (b : List Char) : Prop :=
  ∃ letter scheme user, b = letter :: (scheme ++ ':' :: '/' :: '/' :: (user ++ [':'])) ∧
    isFoldedLetter letter = true ∧ (∀ c ∈ scheme, isSchemeChar c = true) ∧
    user ≠ [] ∧ (∀ c ∈ user, isUserChar c = true) ∧ previous.any Text.isWord = false

def IsPassword (s : List Char) : Prop := s ≠ [] ∧ ∀ c ∈ s, isPasswordChar c = true

theorem url_shape (h : urlCredentials.Matches previous b s a rest) :
    IsLogin previous b ∧ IsPassword s ∧ a = ['@'] := by
  obtain ⟨before, secret, after⟩ := h
  simp only [urlCredentials, takesAll_cons, takesAll_nil, takes_edge, takes_one, takes_run, takes_exactly]
    at before secret after
  obtain ⟨_, _, rfl, ⟨rfl, edge⟩, _, _, rfl, ⟨letter, rfl, isLetter⟩, scheme, _, rfl, ⟨-, isScheme, -⟩, _, _, rfl, rfl,
    user, _, rfl, ⟨some, isUser, -⟩, _, _, rfl, rfl, rfl⟩ := before
  obtain ⟨s, _, rfl, ⟨some', isPassword, -⟩, rfl⟩ := secret
  obtain ⟨_, _, rfl, rfl, rfl⟩ := after
  refine ⟨⟨letter, scheme, user, by simp, isLetter, isScheme, List.length_pos_iff.mp some, isUser, ?_⟩,
    ⟨by simpa using List.length_pos_iff.mp some', by simpa using isPassword⟩, rfl⟩
  simpa [atEdge, isWord_of_isFoldedLetter isLetter] using edge

theorem url_matches (login : IsLogin previous b) (password : IsPassword s) :
    urlCredentials.Matches previous b s ['@'] rest := by
  obtain ⟨letter, scheme, user, rfl, isLetter, isScheme, some, isUser, edge⟩ := login
  obtain ⟨some', isPassword⟩ := password
  refine ⟨?_, ?_, ?_⟩
  · simp only [urlCredentials, takesAll_cons, takesAll_nil, takes_edge, takes_one, takes_run, takes_exactly]
    refine ⟨[], _, rfl, ⟨rfl, ?_⟩, [letter], _, rfl, ⟨letter, rfl, isLetter⟩, scheme, _, rfl,
      ⟨Nat.zero_le _, isScheme, ?_⟩, "://".toList, _, rfl, rfl, user, _, rfl,
      ⟨List.length_pos_iff.mpr some, isUser, ?_⟩, [':'], [], rfl, rfl, rfl⟩
    · simp [atEdge, isWord_of_isFoldedLetter isLetter, edge]
    · rintro _ ⟨⟩
      decide
    · rintro _ ⟨⟩
      decide
  · simp only [urlCredentials, takesAll_cons, takesAll_nil, takes_run]
    exact ⟨s, [], by simp, ⟨List.length_pos_iff.mpr some', isPassword, by simp [isPasswordChar]⟩, rfl⟩
  · simp only [urlCredentials, takesAll_cons, takesAll_nil, takes_exactly]
    exact ⟨['@'], [], rfl, rfl, rfl⟩

/-- The secret of a key ends where no character of a value follows. -/
theorem keyValue_shape (h : keyValue.Matches previous b s a rest) :
    s ≠ [] ∧ a = [] ∧ ∀ c ∈ rest.head?, isValueChar c = false := by
  obtain ⟨-, secret, after⟩ := h
  simp only [keyValue, takesAll_cons, takesAll_nil, takes_run] at secret after
  obtain ⟨s, _, rfl, ⟨some, -, ends⟩, rfl⟩ := secret
  subst after
  exact ⟨by simpa using List.length_pos_iff.mp some, rfl, ends⟩

end Credential

end KeywordSuite
