import KeywordSuite.Proofs.Sanitizer.Hiding
import Mathlib.Data.List.Chain

/-!
# Keys in sanitized texts

Once a text is sanitized, the value of every key that can be read in it is the mask, or the mask and
the sign after the password of a URL with what follows it. A key that is still there was there
before, with the same edge in front of it; the pattern for keys masks its value, and the patterns
that run later keep the mask and the character after it.
-/

namespace KeywordSuite

open Glyph

namespace Piece

variable {previous : Option Char} {w rest : List Char}

theorem takes_option {allowed : Char → Bool} :
    Takes (.run allowed 0 (some 1)) previous w rest ↔
      (w = [] ∧ ∀ c ∈ rest.head?, allowed c = false) ∨ ∃ c, w = [c] ∧ allowed c = true := by
  simp only [takes_run_iff, countRun, Nat.zero_le, true_and]
  cases w with
  | nil =>
    cases rest with
    | nil => simp
    | cons c rest => by_cases allows : allowed c = true <;> simp [allows]
  | cons c w =>
    by_cases allows : allowed c = true
    · cases w <;> simp [allows]
    · simp [allows]

/-- Of words none of which begins another, a text begins with one at most. -/
theorem eq_of_apart {words : List (List Char)} {cs u v : List Char} (apart : ∀ u ∈ words, ∀ v ∈ words, u <+: v → u = v)
    (left : u <+: cs) (right : v <+: cs) (first : u.map foldChar ∈ words) (second : v.map foldChar ∈ words) :
    u.map foldChar = v.map foldChar := by
  rcases Nat.le_total u.length v.length with shorter | longer
  · exact apart _ first _ second ((List.prefix_of_prefix_length_le left right shorter).map foldChar)
  · exact (apart _ second _ first ((List.prefix_of_prefix_length_le right left longer).map foldChar)).symm

theorem takes_anyWord_of {words : List (List Char)} (apart : ∀ u ∈ words, ∀ v ∈ words, u <+: v → u = v)
    (member : w.map foldChar ∈ words) : Takes (.anyWord words) previous w rest := by
  have dropped : dropWord (w.map foldChar) (w ++ rest) = some rest := dropWord_eq_some.mpr ⟨w, rfl, rfl⟩
  obtain ⟨n, found⟩ : ∃ n, take? previous (w ++ rest) (.anyWord words) = some n := by
    rw [← Option.isSome_iff_exists, take?, List.findSome?_isSome_iff]
    exact ⟨_, member, by simp [dropped]⟩
  obtain ⟨word, member', taken⟩ := List.exists_of_findSome?_eq_some found
  obtain ⟨after, dropped', rfl⟩ := Option.map_eq_some_iff.mp taken
  obtain ⟨u, split, rfl⟩ := dropWord_eq_some.mp dropped'
  have same : u.map foldChar = w.map foldChar :=
    eq_of_apart apart ⟨after, split.symm⟩ (List.prefix_append w rest) member' member
  rw [Takes, found, same, List.length_map]

end Piece

namespace Credential

open Piece

variable {previous : Option Char} {b s a rest : List Char} {c : Char}

/-- A key and its sign, with what may stand around the sign. -/
def IsKey (b : List Char) : Prop :=
  ∃ word gap sign gap' quote, b = word ++ (gap ++ sign :: (gap' ++ quote)) ∧ word.map foldChar ∈ keyWords ∧
    (∀ c ∈ gap, Text.isBlank c = true) ∧ (sign = ':' ∨ sign = '=') ∧ (∀ c ∈ gap', Text.isBlank c = true) ∧
    (∀ c ∈ quote, isQuote c = true) ∧ quote.length ≤ 1

theorem isBlank_of_isQuote (h : isQuote c = true) : Text.isBlank c = false := by
  simp only [isQuote, Bool.or_eq_true, decide_eq_true_eq] at h
  rcases h with rfl | rfl <;> decide

theorem keyWords_apart : ∀ u ∈ keyWords, ∀ v ∈ keyWords, u <+: v → u = v := by decide +kernel

theorem keyWords_first : ∀ w ∈ keyWords, ∃ c ∈ ['a', 'p', 's', 't'], w.head? = some c := by
  have heads : ∀ w ∈ keyWords, w.head?.any (['a', 'p', 's', 't'].contains ·) = true := by decide +kernel
  intro w member
  have head := heads w member
  cases w with
  | nil => cases head
  | cons c w => exact ⟨c, List.contains_iff_mem.mp head, rfl⟩

/-- The hyphen is the only sign in a key, and no key begins with the letter after it. -/
theorem keyWords_chain : ∀ w ∈ keyWords,
    w.IsChain fun c d => ('a' ≤ c ∧ c ≤ 'z') ∨ c = '_' ∨ d ∉ ['a', 'p', 's', 't'] := by decide +kernel

theorem star_not_mem_keyWords : ∀ w ∈ keyWords, '*' ∉ w := by decide +kernel

theorem eq_of_foldChar_eq_underscore (h : foldChar c = '_') : c = '_' := by
  have folded : c.toLower = '_' := by
    rw [foldChar] at h
    split_ifs at h
    all_goals first | exact h | exact absurd h (by decide)
  delta Char.toLower at folded
  split at folded
  · rename_i upper
    have code := congrArg (fun c : Char => c.val.toNat) folded
    simp [UInt32.le_iff_toNat_le] at code upper
    omega
  · exact folded

theorem isValueChar_of_isFoldedLetter (h : isFoldedLetter c = true) : isValueChar c = true :=
  isValueChar_of_isTokenChar (by simp [isTokenChar, h])

theorem isFoldedLetter_of_first (h : foldChar c ∈ ['a', 'p', 's', 't']) : isFoldedLetter c = true := by
  simp only [List.mem_cons, List.not_mem_nil, or_false] at h
  obtain h | h | h | h := h <;> rw [isFoldedLetter, h] <;> decide

theorem IsKey.first (h : IsKey b) : ∃ c b', b = c :: b' ∧ foldChar c ∈ ['a', 'p', 's', 't'] := by
  obtain ⟨word, gap, sign, gap', quote, rfl, member, -⟩ := h
  obtain ⟨letter, first, head⟩ := keyWords_first _ member
  cases word with
  | nil => cases head
  | cons c word =>
    rw [List.map_cons, List.head?_cons, Option.some.injEq] at head
    exact ⟨c, _, rfl, head ▸ first⟩

theorem IsKey.star_not_mem (h : IsKey b) : '*' ∉ b := by
  obtain ⟨word, gap, sign, gap', quote, rfl, member, blank, signs, blank', quotes, -⟩ := h
  have inWord : '*' ∉ word := fun star => star_not_mem_keyWords _ member (List.mem_map.mpr ⟨'*', star, by decide⟩)
  have inGap : '*' ∉ gap := not_mem_of_class blank (by decide)
  have inGap' : '*' ∉ gap' := not_mem_of_class blank' (by decide)
  have inQuote : '*' ∉ quote := not_mem_of_class quotes (by decide)
  have inSign : '*' ≠ sign := by rcases signs with rfl | rfl <;> decide
  simp [inWord, inGap, inGap', inQuote, inSign]

/-- No key starts inside another at the edge of a word. -/
theorem IsKey.not_within {c d : List Char} {l : Char} (h : IsKey (c ++ l :: d)) (some : c ≠ [])
    (edge : (lastOf none c).any Text.isWord = false) : foldChar l ∉ ['a', 'p', 's', 't'] := by
  intro first
  obtain ⟨word, gap, sign, gap', quote, split, member, blank, signs, blank', quotes, -⟩ := h
  have letter := isFoldedLetter_of_first first
  rcases Nat.lt_or_ge c.length word.length with inside | past
  · obtain ⟨e, rfl, -⟩ := cut_left split.symm inside
    obtain ⟨c, k, rfl⟩ := (List.eq_nil_or_concat c).resolve_left some
    have chain := keyWords_chain _ member
    simp only [List.concat_eq_append, List.append_assoc, List.cons_append, List.nil_append, List.map_append,
      List.map_cons, List.isChain_append_cons_cons] at chain
    have refused : Text.isWord k = false := by simpa [lastOf] using edge
    rcases chain.2.1 with low | sign | other
    · rw [isWord_of_isFoldedLetter (by simpa [isFoldedLetter] using low)] at refused
      cases refused
    · rw [eq_of_foldChar_eq_underscore sign] at refused
      exact absurd refused (by decide +kernel)
    · exact other first
  · obtain ⟨e, -, others⟩ := cut_right split.symm past
    have there : l ∈ gap ++ sign :: (gap' ++ quote) := by simp [others]
    have unsigned : l ≠ sign := by
      rintro rfl
      rcases signs with rfl | rfl <;> exact absurd letter (by decide)
    have unquoted : isQuote l = false := by
      have value := isValueChar_of_isFoldedLetter letter
      simp only [isValueChar, Bool.not_eq_true', Bool.or_eq_false_iff] at value
      exact value.1.1.1
    have inGap : l ∉ gap := not_mem_of_class blank (isBlank_of_isFoldedLetter letter)
    have inGap' : l ∉ gap' := not_mem_of_class blank' (isBlank_of_isFoldedLetter letter)
    have inQuote : l ∉ quote := not_mem_of_class quotes unquoted
    simp [inGap, inGap', inQuote, unsigned] at there

theorem key_shape (h : TakesAll keyValue.before previous b rest) : IsKey b ∧ previous.any Text.isWord = false := by
  simp only [keyValue, takesAll_cons, takesAll_nil, takes_edge, takes_one, takes_run, takes_option] at h
  obtain ⟨_, _, rfl, ⟨rfl, edge⟩, word, _, rfl, taken, gap, _, rfl, ⟨-, blank, -⟩, _, _, rfl, ⟨sign, rfl, signs⟩,
    gap', _, rfl, ⟨-, blank', -⟩, quote, _, rfl, quotes, rfl⟩ := h
  have key : IsKey (word ++ (gap ++ sign :: (gap' ++ quote))) := by
    refine ⟨word, gap, sign, gap', quote, rfl, takes_anyWord taken, blank, by simpa using signs, blank', ?_, ?_⟩
    · rcases quotes with ⟨rfl, -⟩ | ⟨q, rfl, isQuote⟩
      · simp
      · simpa using isQuote
    · rcases quotes with ⟨rfl, -⟩ | ⟨q, rfl, -⟩ <;> simp
  have whole : [] ++ (word ++ (gap ++ ([sign] ++ (gap' ++ (quote ++ []))))) = word ++ (gap ++ sign :: (gap' ++ quote)) := by
    simp
  rw [List.nil_append] at whole
  rw [whole] at edge
  refine ⟨by simpa using key, ?_⟩
  obtain ⟨c, b', first, letter⟩ := key.first
  rw [first] at edge
  simpa [atEdge, isWord_of_isFoldedLetter (isFoldedLetter_of_first letter)] using edge

/-- A key at the edge of a word is matched where its value begins. -/
theorem key_takes (key : IsKey b) (edge : previous.any Text.isWord = false) (value : isValueChar c = true) :
    TakesAll keyValue.before previous b (c :: rest) := by
  have atStart : atEdge previous (b ++ c :: rest) = true := by
    obtain ⟨d, b', rfl, letter⟩ := key.first
    simp [atEdge, isWord_of_isFoldedLetter (isFoldedLetter_of_first letter), edge]
  obtain ⟨word, gap, sign, gap', quote, rfl, member, blank, signs, blank', quotes, short⟩ := key
  simp only [isValueChar, Bool.not_eq_true', Bool.or_eq_false_iff] at value
  obtain ⟨⟨⟨unquoted, filled⟩, -⟩, -⟩ := value
  simp only [keyValue, takesAll_cons, takesAll_nil, takes_edge, takes_one, takes_run, takes_option]
  refine ⟨[], _, rfl, ⟨rfl, atStart⟩, word, _, rfl, takes_anyWord_of keyWords_apart member,
    gap, sign :: (gap' ++ quote), rfl, ⟨Nat.zero_le _, blank, ?_⟩,
    [sign], gap' ++ quote, rfl, ⟨sign, rfl, by simpa using signs⟩, gap', quote, rfl, ⟨Nat.zero_le _, blank', ?_⟩,
    quote, [], by simp, ?_, rfl⟩
  · rintro _ ⟨⟩
    rcases signs with rfl | rfl <;> decide
  · cases quote with
    | nil => simpa using filled
    | cons q quote =>
      rintro _ ⟨⟩
      exact isBlank_of_isQuote (quotes q List.mem_cons_self)
  · cases quote with
    | nil => exact .inl ⟨rfl, by simpa using unquoted⟩
    | cons q more =>
      obtain rfl : more = [] := by simpa using short
      exact .inr ⟨q, rfl, quotes q List.mem_cons_self⟩

theorem key_matches (key : IsKey b) (edge : previous.any Text.isWord = false) (value : isValueChar c = true) :
    ∃ s more, c :: rest = s ++ more ∧ keyValue.Matches previous b s [] more := by
  obtain ⟨s, more, split, values, ends⟩ := exists_run isValueChar (c :: rest)
  refine ⟨s, more, split, ?_, ?_, rfl⟩
  · rw [List.nil_append, ← split]
    exact key_takes key edge value
  · simp only [keyValue, takesAll_cons, takesAll_nil, takes_run]
    refine ⟨s, [], by simp, ⟨?_, values, ends⟩, rfl⟩
    cases s with
    | nil =>
      subst split
      exact absurd (ends c rfl) (by simp [value])
    | cons d s => simp

theorem isValueChar_of_key (h : keyValue.Matches previous b s a rest) : ∀ c ∈ s, isValueChar c = true := by
  obtain ⟨-, secret, -⟩ := h
  simp only [keyValue, takesAll_cons, takesAll_nil, takes_run] at secret
  obtain ⟨s, _, rfl, ⟨-, values, -⟩, rfl⟩ := secret
  simpa using values

/-- Whether a value that has come so far ends here, but for the sign after a password. -/
def EndsValue (cs : List Char) : Prop := ∀ c ∈ cs.head?, isValueChar c = false ∨ c = '@'

/-- A mask, or a mask and the sign after a password with what follows it. -/
def IsMaskedValue (s : List Char) : Prop := s = mask ∨ mask ++ ['@'] <+: s

/-- A value runs on over a mask, so one that a mask begins is as long as the mask or longer. -/
theorem isMaskedValue_of_mask {r : List Char} (h : keyValue.Matches previous b s a rest)
    (split : s ++ (a ++ rest) = mask ++ r) (ends : EndsValue r) : IsMaskedValue s := by
  have values := isValueChar_of_key h
  obtain ⟨-, rfl, closes⟩ := keyValue_shape h
  rw [List.nil_append] at split
  obtain ⟨w, whole, rfl⟩ | ⟨w, rfl, rfl⟩ := List.append_eq_append_iff.mp split
  · cases w with
    | nil => exact .inl (by rw [whole, List.append_nil])
    | cons d w =>
      obtain rfl : d = '*' := eq_of_mem_mask (by simp [whole])
      exact absurd (closes '*' rfl) (by decide)
  · cases w with
    | nil => exact .inl (List.append_nil _)
    | cons d w =>
      obtain refused | rfl := ends d rfl
      · rw [values d (by simp)] at refused
        cases refused
      · exact .inr ⟨w, by simp⟩

/-- No key ends with the word and the gap before a token. -/
theorem IsKey.not_bearer {u k b : List Char} (key : IsKey k) (announced : IsBearer b) : ¬ k <:+ u ++ b := by
  rintro ⟨z, split⟩
  obtain ⟨word, gap, sign, gap', quote, rfl, -, -, signs, blank', quotes, -⟩ := key
  obtain ⟨bearer, space, rfl, folded, filled, blank⟩ := announced
  have plain : Text.isBlank sign = false := by rcases signs with rfl | rfl <;> decide
  obtain rfl | ⟨quote, q, rfl⟩ := List.eq_nil_or_concat quote
  · have cut : u ++ bearer ++ space = (z ++ word ++ gap) ++ sign :: gap' := by simpa using split.symm
    rcases Nat.lt_or_ge (z ++ word ++ gap).length (u ++ bearer).length with before | after
    · -- The word would end in the gap after the sign.
      obtain ⟨e, ends, rfl⟩ := cut_left cut before
      obtain rfl | ⟨bearer, l, rfl⟩ := List.eq_nil_or_concat bearer
      · cases folded
      · have letter : isFoldedLetter l = true := by
          have last : foldChar l = 'r' := by
            have folded := congrArg List.getLast? folded
            simpa using folded
          rw [isFoldedLetter, last]
          decide
        have there : l ∈ sign :: e := by
          have last : (u ++ bearer.concat l).getLast? = some l := by
            rw [List.concat_eq_append, ← List.append_assoc, List.getLast?_concat]
          rw [ends, List.getLast?_append_of_ne_nil _ (List.cons_ne_nil _ _)] at last
          exact List.mem_of_getLast? last
        obtain rfl | inside := List.mem_cons.mp there
        · rcases signs with rfl | rfl <;> exact absurd letter (by decide)
        · exact absurd (blank' l (by simp [inside])) (by simp [isBlank_of_isFoldedLetter letter])
    · obtain ⟨e, -, rfl⟩ := cut_right cut after
      exact absurd (blank sign (by simp)) (by simp [plain])
  · obtain ⟨space, c, rfl⟩ := (List.eq_nil_or_concat space).resolve_left filled
    have last := congrArg List.getLast? split
    simp only [List.concat_eq_append, ← List.append_assoc, List.getLast?_concat, ← List.cons_append,
      Option.some.injEq] at last
    have quoted := quotes q (by simp)
    rw [show q = c by simpa using last] at quoted
    exact absurd (blank c (by simp)) (by simp [isBlank_of_isQuote quoted])

end Credential

/-- The value of every key is the mask, but for what follows the password of a URL. -/
def KeysMasked (cs : List Char) : Prop :=
  ∀ x b s a y, cs = x ++ (b ++ (s ++ (a ++ y))) → Credential.keyValue.Matches (Piece.lastOf none x) b s a y →
    Credential.IsMaskedValue s

namespace CredentialPattern

/-- A pattern whose masks stand apart from words and from other masks: a match starts with a letter, no
star stands before a secret, no letter follows a word character of a secret, and where the secret
stands right after a key no more of a value follows. -/
structure StandsApart (p : CredentialPattern) : Prop where
  secret : p.HasSecret
  opens : ∀ {previous b s a rest}, p.Matches previous b s a rest → ∃ c b', b = c :: b' ∧ Piece.isFoldedLetter c = true
  starts : ∀ {previous b s a rest}, p.Matches previous b s a rest → ∃ b' c, b = b' ++ [c] ∧ c ≠ '*'
  ends : ∀ {previous b s a rest c}, p.Matches previous b s a rest → (a ++ rest).head? = some c →
    Piece.isFoldedLetter c = true → (Piece.lastOf none s).any Text.isWord = false
  closes : ∀ {previous b s a rest k u}, p.Matches previous b s a rest → Credential.IsKey k → k <:+ u ++ b →
    (∃ a', a = '@' :: a') ∨ a = [] ∧ ∀ c ∈ rest.head?, Credential.isValueChar c = false

end CredentialPattern

namespace Credential

open Piece

theorem keyValue_standsApart : keyValue.StandsApart where
  secret := hasSecret_keyValue
  opens h := by
    obtain ⟨c, b', first, letter⟩ := (key_shape h.1).1.first
    exact ⟨c, b', first, isFoldedLetter_of_first letter⟩
  starts {_ b _ _ _} h := by
    have key := (key_shape h.1).1
    obtain rfl | ⟨b', c, rfl⟩ := List.eq_nil_or_concat b
    · obtain ⟨c, b', first, -⟩ := key.first
      cases first
    · refine ⟨b', c, by simp, ?_⟩
      rintro rfl
      exact key.star_not_mem (by simp)
  ends h first letter := by
    obtain ⟨-, rfl, ends⟩ := keyValue_shape h
    exact absurd (ends _ first) (by simp [isValueChar_of_isFoldedLetter letter])
  closes h _ _ := .inr (keyValue_shape h).2

theorem IsBearer.opens (h : IsBearer b) : ∃ c b', b = c :: b' ∧ isFoldedLetter c = true := by
  obtain ⟨c, b', first, letter, -⟩ := h.first
  exact ⟨c, b', first, by rw [isFoldedLetter, letter]; decide⟩

theorem bearerToken_standsApart : bearerToken.StandsApart where
  secret := hasSecret_bearerToken
  opens h := (bearer_shape h).1.opens
  starts {_ b _ _ _} h := by
    obtain ⟨word, gap, rfl, -, some, blank⟩ := (bearer_shape h).1
    obtain ⟨gap, c, rfl⟩ := (List.eq_nil_or_concat gap).resolve_left some
    refine ⟨word ++ gap, c, by simp, ?_⟩
    rintro rfl
    exact absurd (blank '*' (by simp)) (by decide)
  ends {_ _ s a rest c} h first letter := by
    obtain ⟨-, secret, after⟩ := h
    simp only [bearerToken, takesAll_cons, takesAll_nil, takes_run] at secret after
    obtain ⟨body, _, rfl, ⟨-, -, ends⟩, pad, _, rfl, ⟨-, pads, -⟩, rfl⟩ := secret
    subst after
    obtain rfl | ⟨pad, d, rfl⟩ := List.eq_nil_or_concat pad
    · have refused := ends c (by simpa using first)
      simp [isTokenChar, letter] at refused
    · have sign : d = '=' := by simpa using pads d (by simp)
      subst sign
      simp [lastOf]
      decide +kernel
  closes h key after := absurd after (key.not_bearer (bearer_shape h).1)

theorem urlCredentials_standsApart : urlCredentials.StandsApart where
  secret := hasSecret_urlCredentials
  opens h := (url_shape h).1.first
  starts {_ b _ _ _} h := by
    obtain ⟨letter, scheme, user, rfl, -⟩ := (url_shape h).1
    exact ⟨letter :: (scheme ++ ':' :: '/' :: '/' :: user), ':', by simp, by decide⟩
  ends h first letter := by
    obtain ⟨-, -, rfl⟩ := url_shape h
    cases first
    exact absurd letter (by decide)
  closes h _ _ := .inl ⟨[], (url_shape h).2.2⟩

end Credential

/-! ## Keys before and after a pass -/

theorem exists_place_of_mem_label {n : Nat} {cs : List Char} : ∀ g ∈ label n cs, ∃ i, g.place = some i := by
  intro g member
  obtain ⟨i, place, -⟩ := stems_of_mem_label member
  exact ⟨n + i, place⟩

/-- No key ends with a star, so the first star after one is the first of its mask. -/
theorem clear_of_key_suffix {k w : List Glyph} (key : Credential.IsKey (chars k)) (after : k <:+ w) :
    ∀ d ∈ w.getLast?, d ∉ veil := by
  intro d last star
  obtain ⟨c, k', first, -⟩ := key.first
  have some : k ≠ [] := by
    rintro rfl
    cases first
  obtain ⟨z, rfl⟩ := after
  rw [List.getLast?_append_of_ne_nil _ some] at last
  refine key.star_not_mem (List.mem_map.mpr ⟨d, List.mem_of_getLast? last, ?_⟩)
  rw [eq_of_mem_veil star]

/-- A key that is still there after a pass, with the first character of its value; `x`, `y` and `y'`
are what stands around them before the pass, and after it. -/
structure KeptKey (gs out x b : List Glyph) (g : Glyph) (y y' : List Glyph) : Prop where
  text : gs = x ++ (b ++ g :: y)
  left : ∃ x', out = x' ++ (b ++ g :: y') ∧ Veils x x'
  rest : Veils y y'
  key : Credential.IsKey (chars b)
  edge : (Piece.lastOf none (chars x)).any Text.isWord = false
  value : Credential.isValueChar g.char = true

namespace CredentialPattern

variable {p : CredentialPattern} {n : Nat} {gs out x x' y y' : List Glyph} {g : Glyph} {hs : List (Nat × Match)}

/-- Where a letter has no word in front of it after a pass, it had none before. -/
theorem Passes.edge_before (run : p.Passes n none gs hs out) (apart : p.StandsApart) (distinct : (places gs).Nodup)
    (placed : ∀ g ∈ gs, ∃ i, g.place = some i) (cut : gs = x ++ g :: y) (cut' : out = x' ++ g :: y')
    (hx : Veils x x') (hy : Veils y y') (letter : Piece.isFoldedLetter g.char = true)
    (edge : (Piece.lastOf none (chars x')).any Text.isWord = false) :
    (Piece.lastOf none (chars x)).any Text.isWord = false := by
  obtain rfl | ⟨x, e, rfl⟩ := List.eq_nil_or_concat x
  · rfl
  rw [List.concat_eq_append] at cut hx ⊢
  obtain ⟨i, place⟩ := placed e (by simp [cut])
  obtain ⟨j, place'⟩ := placed g (by simp [cut])
  -- the character before the letter is still there, or it was the last one of a secret
  by_cases seen : i ∈ places out
  · have own : i ∈ places x' := by
      rw [cut] at distinct
      rw [cut', places_append, places_cons] at seen
      have later := hy.sublist.subset (a := i)
      simp only [places_append, places_cons, place, place', List.nodup_append, List.mem_append, Option.toList_some] at *
      grind
    obtain ⟨u, v, rfl, -, hv⟩ := hx.split (x := x) (y := []) (List.nodup_append.mp (places_append ▸ cut ▸ distinct)).1 rfl place own
    obtain rfl := hv.nil_left
    simpa [Piece.lastOf] using edge
  · obtain ⟨x₁, b, s, a, y₁, masked, inside⟩ := run.exists_of_hidden (by simp [cut, places_append, places_cons, place]) seen
    obtain ⟨d, own, placed'⟩ := mem_places.mp inside
    obtain ⟨s₁, s₂, rfl⟩ := List.append_of_mem own
    have same : x ++ e :: (g :: y) = (x₁ ++ b ++ s₁) ++ d :: (s₂ ++ (a ++ y₁)) := by
      have text := cut.symm.trans masked.text
      simpa using text
    obtain ⟨-, rfl, rest⟩ := cut_unique same (by simpa [cut] using distinct) place placed'
    cases s₂ with
    | nil =>
      have apart' := apart.ends masked.shape (c := g.char) (by rw [← chars_append, ← rest.trans (List.nil_append _)]; rfl) letter
      simpa [Piece.lastOf] using apart'
    | cons f s₂ =>
      obtain ⟨rfl, -⟩ := List.cons.inj rest
      refine absurd ?_ (masked.hidden distinct j (by simp [places_append, places_cons, place']))
      simp [cut', places_append, places_cons, place']

/-- A character after stars the first of which is still seen is still seen: no secret starts after a star. -/
theorem Passes.seen_after_stars {v : List Glyph} (run : p.Passes n none gs hs out) (apart : p.StandsApart)
    (distinct : (places gs).Nodup) (placed : ∀ g ∈ gs, ∃ i, g.place = some i) (cut : gs = x ++ (g :: v ++ y))
    (seen : Seen [g] out) (stars : ∀ d ∈ (g :: v).dropLast, d.char = '*') : Seen (g :: v) out := by
  intro d member
  obtain ⟨j, place⟩ := placed d (by rw [cut]; exact List.mem_append_right _ (List.mem_append_left _ member))
  refine ⟨j, ?_, place⟩
  by_contra gone
  obtain ⟨v₁, v₂, split⟩ := List.append_of_mem member
  obtain ⟨i, shown, place₀⟩ := seen g List.mem_cons_self
  have there : j ∈ places gs := by rw [cut, split]; simp [places_append, places_cons, place]
  obtain ⟨x₁, b, s, a, y₁, masked, inside⟩ := run.exists_of_hidden there gone
  obtain ⟨d', own, place'⟩ := mem_places.mp inside
  obtain ⟨s₁, s₂, rfl⟩ := List.append_of_mem own
  have same : x ++ v₁ ++ d :: (v₂ ++ y) = x₁ ++ b ++ s₁ ++ d' :: (s₂ ++ (a ++ y₁)) := by
    have text := cut.symm.trans masked.text
    simpa [split] using text
  obtain ⟨before, rfl, -⟩ := cut_unique same (by simpa [cut, split] using distinct) place place'
  have first : g ∈ v₁ ++ [d] := by
    cases v₁ with
    | nil => simp [(List.cons.inj split).1]
    | cons e v₁ => simp [(List.cons.inj split).1]
  have within : ¬ v₁ <:+ s₁ := by
    rintro ⟨k, rfl⟩
    refine masked.hidden distinct i (mem_places.mpr ⟨g, ?_, place₀⟩) shown
    rw [List.append_assoc, List.append_cons]
    exact List.mem_append_right _ (List.mem_append_left _ first)
  obtain ⟨k, whole, rfl⟩ | ⟨k, -, rfl⟩ := List.append_eq_append_iff.mp before
  · obtain rfl | ⟨k, h, rfl⟩ := List.eq_nil_or_concat k
    · exact within (List.suffix_refl _)
    · -- The secret would start after a star.
      obtain ⟨b', c, last, plain⟩ := apart.starts masked.shape
      have ends := congrArg (fun gs => (chars gs).getLast?) whole
      simp only [chars_append, last, List.concat_eq_append, chars_cons, chars_nil, ← List.append_assoc,
        List.getLast?_concat, Option.some.injEq] at ends
      refine plain (ends.trans (stars h ?_))
      rw [split, List.dropLast_append_of_ne_nil (List.cons_ne_nil _ _)]
      simp
  · exact within (List.suffix_append k v₁)

/-- Where no value goes on, none does after a pass: what a pass hides starts with a letter. -/
theorem Passes.ends_value (run : p.Passes n previous gs hs out) (apart : p.StandsApart)
    (ends : ∀ c ∈ (chars gs).head?, Credential.isValueChar c = false) :
    ∀ c ∈ (chars out).head?, Credential.isValueChar c = false := by
  cases run with
  | nil => exact ends
  | keep _ _ => exact ends
  | @hide _ _ b s a rest out hs shape _ _ =>
    obtain ⟨c, b', first, letter⟩ := apart.opens shape
    have refused := ends c (by rw [chars_append, first]; rfl)
    rw [Credential.isValueChar_of_isFoldedLetter letter] at refused
    cases refused

/-- A mask right after a key ends the value. -/
theorem Passes.ends_after_veil {w k r : List Glyph} (run : p.Passes n previous gs hs out) (apart : p.StandsApart)
    (placed : ∀ g ∈ gs, ∃ i, g.place = some i) (cut : out = w ++ g :: r) (masks : g ∈ veil)
    (key : Credential.IsKey (chars k)) (after : k <:+ w) :
    ∃ r', g :: r = veil ++ r' ∧ Credential.EndsValue (chars r') := by
  obtain ⟨x, b, s, a, y, rest, _, rfl, whole, shape, _, _, _, others⟩ :=
    run.exists_of_veil placed cut masks (clear_of_key_suffix key after)
  refine ⟨a ++ y, whole, ?_⟩
  obtain ⟨a', first⟩ | ⟨empty, ends⟩ := apart.closes shape key (u := chars x) (by
    simpa [chars] using after.map Glyph.char)
  · rw [chars_append, first]
    rintro _ ⟨⟩
    exact .inr rfl
  · obtain rfl : a = [] := by simpa [chars] using empty
    exact fun c first => .inl (others.ends_value apart ends c first)

/-- The value of a key that a pass leaves begins with a mask that the pass put there, or the key was there before. -/
theorem veil_or_keptKey {cs x b s a y : List Char} (apart : p.StandsApart)
    (cut : p.maskText cs = x ++ (b ++ (s ++ (a ++ y)))) (shape : Credential.keyValue.Matches (Piece.lastOf none x) b s a y) :
    (∃ w k g r, p.trace (label 0 cs) = w ++ (k ++ g :: r) ∧ chars k = b ∧ g ∈ veil ∧ chars (g :: r) = s ++ (a ++ y)) ∨
      ∃ x₀ b₀ g y₀ y', KeptKey (label 0 cs) (p.trace (label 0 cs)) x₀ b₀ g y₀ y' ∧ chars (g :: y') = s ++ (a ++ y) := by
  have run := passes_trace apart.secret (label 0 cs)
  have placed : ∀ g ∈ label 0 cs, ∃ i, g.place = some i := exists_place_of_mem_label
  have text : chars (p.trace (label 0 cs)) = x ++ (b ++ (s ++ (a ++ y))) := by rw [p.chars_trace, chars_label, cut]
  obtain ⟨key, edge⟩ := Credential.key_shape shape.1
  obtain ⟨some, empty, -⟩ := Credential.keyValue_shape shape
  obtain ⟨x', r, split, rfl, text₁⟩ := exists_of_chars_append text
  obtain ⟨b, r, rfl, rfl, text₂⟩ := exists_of_chars_append text₁
  obtain ⟨g, r, rfl⟩ : ∃ g r', r = g :: r' := by
    cases r with
    | nil => simp [some] at text₂
    | cons g r => exact ⟨g, r, rfl⟩
  -- `g` is where the value begins: a star of a mask, or a character that was in the text
  by_cases masks : g ∈ veil
  · exact .inl ⟨x', b, g, r, split, rfl, masks, text₂⟩
  · right
    have clear : ∀ g ∈ b, g ∉ veil := by
      intro g member masks
      refine key.star_not_mem (List.mem_map.mpr ⟨g, member, ?_⟩)
      rw [eq_of_mem_veil masks]
    obtain ⟨f, b, rfl⟩ : ∃ f b', b = f :: b' := by
      obtain ⟨c, b', first, -⟩ := key.first
      cases b with
      | nil => cases first
      | cons f b => exact ⟨f, b, rfl⟩
    obtain ⟨x₀, r₀, text₀, hx, hr⟩ := (split ▸ run.veils).infix_of_clear clear (by simp)
    obtain ⟨y₀, rfl, hy⟩ := hr.prefix_of_clear (w := [g]) (by simpa using masks)
    refine ⟨x₀, f :: b, g, y₀, r, ⟨text₀, ⟨x', split, hx⟩, hy, key, ?_, ?_⟩, text₂⟩
    · obtain ⟨c, b', first, letter⟩ := key.first
      obtain ⟨rfl, -⟩ := List.cons.inj (chars_cons.symm.trans first)
      exact run.edge_before apart (nodup_label 0 cs) placed text₀ split hx ((Veils.refl b).append hr)
        (Credential.isFoldedLetter_of_first letter) edge
    · refine Credential.isValueChar_of_key shape g.char ?_
      cases s with
      | nil => exact absurd rfl some
      | cons c s => exact (List.cons.inj text₂).1 ▸ List.mem_cons_self

theorem exists_keptKey {cs x b s a y : List Char} (apart : p.StandsApart)
    (cut : p.maskText cs = x ++ (b ++ (s ++ (a ++ y)))) (shape : Credential.keyValue.Matches (Piece.lastOf none x) b s a y) :
    Credential.IsMaskedValue s ∨ ∃ x₀ b₀ g y₀ y', KeptKey (label 0 cs) (p.trace (label 0 cs)) x₀ b₀ g y₀ y' ∧
      chars (g :: y') = s ++ (a ++ y) := by
  refine (veil_or_keptKey apart cut shape).imp_left ?_
  rintro ⟨w, k, g, r, split, rfl, masks, text⟩
  obtain ⟨r', whole, ends⟩ := (passes_trace apart.secret (label 0 cs)).ends_after_veil (w := w ++ k) apart
    exists_place_of_mem_label (by simpa using split) masks (Credential.key_shape shape.1).1 (List.suffix_append _ _)
  refine Credential.isMaskedValue_of_mask shape (r := chars r') ?_ ends
  rw [← text, whole, chars_append, chars_veil]

end CredentialPattern

variable {cs : List Char} {gs out x b y y' : List Glyph} {g : Glyph}

theorem KeptKey.exists_value (h : KeptKey gs out x b g y y') :
    ∃ s more, g :: y = s ++ more ∧ s ≠ [] ∧
      Credential.keyValue.Matches (Piece.lastOf none (chars x)) (chars b) (chars s) [] (chars more) := by
  obtain ⟨s, more, split, shape⟩ : ∃ s more, chars (g :: y) = s ++ more ∧ _ :=
    Credential.key_matches h.key h.edge h.value
  obtain ⟨s, more, text, rfl, rfl⟩ := exists_of_chars_append split
  exact ⟨s, more, text, by simpa [chars] using (Credential.keyValue_shape shape).1, shape⟩

/-- A key that starts at an edge inside a masked match of another key starts in its value. -/
theorem CredentialPattern.Masked.mem_value {s a : List Glyph} (masked : Credential.keyValue.Masked none gs out x b s a y)
    {w r : List Glyph} (distinct : (places gs).Nodup) (placed : ∀ g ∈ gs, ∃ i, g.place = some i) (cut : gs = w ++ g :: r)
    (before : x.length < w.length) (inside : w.length < (x ++ (b ++ (s ++ a))).length)
    (edge : (Piece.lastOf none (chars w)).any Text.isWord = false) (letter : Piece.foldChar g.char ∈ ['a', 'p', 's', 't']) :
    g ∈ s := by
  obtain ⟨c, d, some, rfl, -⟩ | reached | behind := masked.within cut before inside
  · obtain ⟨i, place⟩ := placed g (by simp [cut])
    have same : w ++ g :: r = (x ++ c) ++ g :: (d ++ (s ++ (a ++ y))) := by
      have text := cut.symm.trans masked.text
      simpa using text
    obtain ⟨rfl, -, -⟩ := cut_unique same (by simpa [cut] using distinct) place place
    have key := (Credential.key_shape masked.shape.1).1
    rw [chars_append, chars_cons] at key
    rw [chars_append, Piece.lastOf_append, Piece.lastOf_eq (by simpa [chars] using some)] at edge
    exact absurd letter (key.not_within (by simpa [chars] using some) edge)
  · exact reached
  · obtain ⟨-, empty, -⟩ := Credential.keyValue_shape masked.shape
    obtain rfl : a = [] := by simpa [chars] using empty
    cases behind

/-- The pattern for keys leaves no key with a character of its value. -/
theorem not_keptKey {n : Nat} {hs : List (Nat × Match)} (run : Credential.keyValue.Passes n none gs hs out)
    (distinct : (places gs).Nodup) (placed : ∀ g ∈ gs, ∃ i, g.place = some i) : ¬ KeptKey gs out x b g y y' := by
  intro kept
  have hidden : ∀ {d s x₁ b₁ a₁ y₁}, Credential.keyValue.Masked none gs out x₁ b₁ s a₁ y₁ → d ∈ s → d ∉ out := by
    intro d s x₁ b₁ a₁ y₁ masked member seen
    obtain ⟨i, place⟩ := placed d (by simp [masked.text, member])
    exact masked.hidden distinct i (mem_places.mpr ⟨d, member, place⟩) (mem_places.mpr ⟨d, seen, place⟩)
  obtain ⟨x', left, -⟩ := kept.left
  obtain ⟨s, more, text, some, shape⟩ := kept.exists_value
  have cut : gs = x ++ (b ++ (s ++ ([] ++ more))) := by rw [kept.text, text, List.nil_append]
  obtain masked | ⟨x₁, b₁, s₁, a₁, y₁, masked, before, inside⟩ := run.masked_or_within cut shape some
  · refine hidden masked (d := g) ?_ (by simp [left])
    cases s with
    | nil => exact absurd rfl some
    | cons d s => exact (List.cons.inj text).1 ▸ List.mem_cons_self
  · obtain ⟨c, b', first, letter⟩ := kept.key.first
    cases b with
    | nil => cases first
    | cons f b =>
      obtain ⟨rfl, -⟩ := List.cons.inj (chars_cons.symm.trans first)
      exact hidden masked (masked.mem_value distinct placed kept.text before inside kept.edge letter) (by simp [left])

/-- Once the pattern for keys has run alone, the value of every key is the mask. -/
theorem eq_mask_of_keyValue {cs x b s a y : List Char}
    (cut : Credential.keyValue.maskText cs = x ++ (b ++ (s ++ (a ++ y))))
    (shape : Credential.keyValue.Matches (Piece.lastOf none x) b s a y) : s = mask := by
  have run := CredentialPattern.passes_trace Credential.hasSecret_keyValue (label 0 cs)
  obtain ⟨w, k, g, r, split, rfl, masks, text⟩ | ⟨x₀, b₀, g, y₀, y', kept, -⟩ :=
    CredentialPattern.veil_or_keptKey Credential.keyValue_standsApart cut shape
  · -- The value starts with stars of a mask, and nothing of a value follows a mask of this pattern.
    have first := clear_of_key_suffix (w := w ++ k) (Credential.key_shape shape.1).1 (List.suffix_append _ _)
    obtain ⟨x₁, b₁, s₁, a₁, y₁, rest, _, -, whole, shape₁, _, _, _, others⟩ :=
      run.exists_of_veil exists_place_of_mem_label (by simpa using split) masks first
    obtain ⟨-, empty, ends⟩ := Credential.keyValue_shape shape₁
    obtain rfl : a₁ = [] := by simpa [chars] using empty
    have stops := others.ends_value Credential.keyValue_standsApart ends
    have after : s ++ (a ++ y) = mask ++ chars y₁ := by rw [← text, whole, chars_append, chars_veil]; rfl
    refine (Credential.isMaskedValue_of_mask shape after fun c first => .inl (stops c first)).resolve_right ?_
    rintro ⟨z, rfl⟩
    rw [List.append_assoc, List.append_assoc, List.append_cancel_left_eq] at after
    exact absurd (stops '@' (by rw [← after]; rfl)) (by decide)
  · exact absurd kept (not_keptKey run (nodup_label 0 cs) exists_place_of_mem_label)

theorem keysMasked_keyValue (cs : List Char) : KeysMasked (Credential.keyValue.maskText cs) :=
  fun _ _ _ _ _ cut shape => .inl (eq_mask_of_keyValue cut shape)

/-- A mask after a key that is still there is still there, and the value ends after it as it did. -/
theorem KeptKey.exists_mask {p : CredentialPattern} {n : Nat} {hs : List (Nat × Match)} {r : List Char}
    (kept : KeptKey gs out x b g y y') (run : p.Passes n none gs hs out) (apart : p.StandsApart)
    (distinct : (places gs).Nodup) (placed : ∀ g ∈ gs, ∃ i, g.place = some i) (masks : chars (g :: y) = mask ++ r)
    (ends : Credential.EndsValue r) : ∃ r', chars (g :: y') = mask ++ r' ∧ Credential.EndsValue r' := by
  obtain ⟨v, z, text, stars, rfl⟩ := exists_of_chars_append masks
  obtain ⟨v, rfl⟩ : ∃ v', v = g :: v' := by
    cases v with
    | nil => cases stars
    | cons d v => exact ⟨v, by rw [(List.cons.inj text).1]⟩
  obtain ⟨x', left, hx⟩ := kept.left
  -- The mask and what ends the value after it are followed together: as far as that, all of it is still seen.
  have whole : g :: y = g :: (v ++ z.take 1) ++ z.drop 1 := by
    rw [text, List.cons_append, List.cons_append, List.append_assoc, List.take_append_drop]
  have cut : gs = (x ++ b) ++ (g :: (v ++ z.take 1) ++ z.drop 1) := by rw [kept.text, whole, List.append_assoc]
  obtain ⟨i, place⟩ := placed g (by simp [cut])
  have seen : Seen (g :: (v ++ z.take 1)) out := by
    refine run.seen_after_stars apart distinct placed cut ?_ fun d member => ?_
    · intro d member
      rw [List.mem_singleton.mp member]
      exact ⟨i, by simp [left, places_append, places_cons, place], place⟩
    · have inMask : d ∈ g :: v := by
        cases z with
        | nil =>
          rw [List.take_nil, List.append_nil] at member
          exact List.dropLast_subset _ member
        | cons e z =>
          rw [List.take_succ_cons, List.take_zero, ← List.cons_append, List.dropLast_concat] at member
          exact member
      exact eq_of_mem_mask (stars ▸ List.mem_map.mpr ⟨d, inMask, rfl⟩)
  have after : Veils (g :: (v ++ z.take 1) ++ z.drop 1) (g :: y') := whole ▸ .keep g kept.rest
  rw [cut, places_append, List.nodup_append] at distinct
  have own : Seen (g :: (v ++ z.take 1)) (g :: y') := by
    intro d member
    obtain ⟨j, shown, place⟩ := seen d member
    rw [left, ← List.append_assoc, places_append, List.mem_append] at shown
    refine ⟨j, shown.resolve_left fun earlier => ?_, place⟩
    refine distinct.2.2 j ((hx.append (.refl b)).sublist.subset earlier) j ?_ rfl
    rw [places_append]
    exact List.mem_append_left _ (mem_places.mpr ⟨d, member, place⟩)
  obtain ⟨y'', whole', others⟩ := after.prefix_of_visible distinct.2.1 own
  refine ⟨chars (z.take 1 ++ y''), ?_, ?_⟩
  · rw [whole', ← stars]
    simp
  · cases z with
    | nil =>
      obtain rfl := others.nil_left
      exact ends
    | cons e z => exact ends

theorem KeysMasked.maskText {p : CredentialPattern} {cs : List Char} (h : KeysMasked cs) (apart : p.StandsApart) :
    KeysMasked (p.maskText cs) := by
  intro x b s a y cut shape
  obtain masks | ⟨x₀, b₀, g, y₀, y', kept, after⟩ := CredentialPattern.exists_keptKey apart cut shape
  · exact masks
  · obtain ⟨v, more, text, -, found⟩ := kept.exists_value
    have whole : cs = chars x₀ ++ (chars b₀ ++ (chars v ++ ([] ++ chars more))) := by
      rw [← chars_label 0 cs, kept.text, text]
      simp
    obtain ⟨r, before, ends⟩ : ∃ r, chars (g :: y₀) = mask ++ r ∧ Credential.EndsValue r := by
      obtain masked | ⟨z, masked⟩ := h _ _ _ _ _ whole found
      · refine ⟨chars more, by rw [text, chars_append, masked], fun c first => .inl ?_⟩
        exact (Credential.keyValue_shape found).2.2 c first
      · refine ⟨'@' :: z ++ chars more, by rw [text, chars_append, ← masked]; simp, ?_⟩
        rintro _ ⟨⟩
        exact .inr rfl
    obtain ⟨r', masks, ends'⟩ := kept.exists_mask (CredentialPattern.passes_trace apart.secret _) apart
      (nodup_label 0 cs) exists_place_of_mem_label before ends
    exact Credential.isMaskedValue_of_mask shape (after.symm.trans masks) ends'

/-- The keys of a sanitized text are masked, whatever keys of mappings are sensitive. -/
theorem keysMasked_sanitizeChars (keys : List String) (cs : List Char) :
    KeysMasked ((Sanitizer.new keys).sanitizeChars cs) := by
  have masked : KeysMasked (Credential.urlCredentials.maskText
      (Credential.bearerToken.maskText (Credential.keyValue.maskText cs))) :=
    ((keysMasked_keyValue cs).maskText Credential.bearerToken_standsApart).maskText Credential.urlCredentials_standsApart
  exact masked

end KeywordSuite
