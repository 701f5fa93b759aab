import KeywordSuite.Proofs.Sanitizer.Again

/-!
# Sensitive keys in mappings and in texts

A mapping shows nothing of a value under a sensitive key. A text of a key, an equals sign and a value shows its
value unless the key is a whole word of the pattern for keys: inside a longer name no such word has an edge in
front of it and a sign behind it, and some sensitive keys are no words of the pattern at all.
-/

namespace KeywordSuite

open Glyph

theorem cut_apart {α : Type} {c d : α} {u v u' v' : List α} (cut : u ++ c :: v = u' ++ d :: v') (differ : c ≠ d) :
    d ∈ u ∨ c ∈ u' := by
  rcases Nat.lt_trichotomy u.length u'.length with shorter | same | longer
  · obtain ⟨e, rfl, -⟩ := cut_left cut.symm shorter
    exact .inr (by simp)
  · exact absurd (List.cons.inj (List.append_inj_right cut same)).1 differ
  · obtain ⟨e, rfl, -⟩ := cut_left cut longer
    exact .inl (by simp)

/-! ## Names -/

/-- A letter, a digit or an underscore of ASCII. -/
def isNameChar (c : Char) : Bool := c.isAlphanum || c == '_'

theorem code_of_isNameChar {c : Char} (h : isNameChar c = true) : c.toNat < 128 := by
  have below : c.isAlphanum = true ∨ c = '_' := by simpa [isNameChar] using h
  obtain letter | rfl := below
  · delta Char.isAlphanum Char.isAlpha Char.isUpper Char.isLower Char.isDigit at letter
    simp only [Bool.or_eq_true, Bool.and_eq_true, decide_eq_true_eq, ge_iff_le, UInt32.le_iff_toNat_le] at letter
    rcases letter with (letter | letter) | letter <;> simp at letter <;> omega
  · decide

theorem nameChar_table : ∀ n : Fin 128, isNameChar (Char.ofNat n) = true →
    Text.isWord (Char.ofNat n) = true ∧ Text.isBlank (Char.ofNat n) = false ∧ Char.ofNat n ≠ ':' ∧ Char.ofNat n ≠ '=' ∧
      Piece.foldChar (Char.ofNat n) ≠ '-' ∧ Text.lowerChar (Char.ofNat n) = [Piece.foldChar (Char.ofNat n)] ∧
      Char.ofNat n ≠ 'Σ' := by
  decide +kernel

theorem nameChar_facts {c : Char} (h : isNameChar c = true) : Text.isWord c = true ∧ Text.isBlank c = false ∧ c ≠ ':' ∧
    c ≠ '=' ∧ Piece.foldChar c ≠ '-' ∧ Text.lowerChar c = [Piece.foldChar c] ∧ c ≠ 'Σ' := by
  have facts := nameChar_table ⟨c.toNat, code_of_isNameChar h⟩
  simp only [Char.ofNat_toNat] at facts
  exact facts h

theorem lowerChars_of_name {k : List Char} (named : ∀ c ∈ k, isNameChar c = true) :
    Text.lowerChars k = k.map Piece.foldChar := by
  suffices each : ∀ before, Text.lowerFrom before k = k.map Piece.foldChar from each []
  induction k with
  | nil => exact fun _ => rfl
  | cons c k ih =>
    intro before
    obtain ⟨-, -, -, -, -, lower, other⟩ := nameChar_facts (named c List.mem_cons_self)
    rw [Text.lowerFrom, ih fun d held => named d (List.mem_cons_of_mem c held), if_neg (by simpa using other), lower]
    rfl

/-! ## Masking behind a name -/

namespace Piece

variable {previous previous' : Option Char} (same : previous.any Text.isWord = previous'.any Text.isWord)
include same

/-- Of what stands before a text only matters whether it ends in a word. -/
theorem takeAll?_congr (ps : List Piece) (cs : List Char) : takeAll? previous cs ps = takeAll? previous' cs ps := by
  induction ps generalizing previous previous' cs with
  | nil => rfl
  | cons p ps ih =>
    have first : p.take? previous cs = p.take? previous' cs := by
      cases p with
      | edge => rw [take?, take?, atEdge, atEdge, same]
      | anyWord | exactly | run => rfl
    rw [takeAll?, takeAll?, first]
    cases p.take? previous' cs with
    | none => rfl
    | some n =>
      have next : (lastOf previous (cs.take n)).any Text.isWord = (lastOf previous' (cs.take n)).any Text.isWord := by
        by_cases empty : cs.take n = []
        · rw [empty]
          exact same
        · rw [lastOf_eq empty]
      exact congrArg (Option.map _) (ih next (cs.drop n))

theorem lastOf_congr (cs : List Char) :
    (lastOf previous cs).any Text.isWord = (lastOf previous' cs).any Text.isWord := by
  by_cases empty : cs = []
  · rw [empty]
    exact same
  · rw [lastOf_eq empty]

end Piece

namespace CredentialPattern

variable {p : CredentialPattern} {previous previous' : Option Char}

theorem matchAt?_congr (same : previous.any Text.isWord = previous'.any Text.isWord) (cs : List Char) :
    p.matchAt? previous cs = p.matchAt? previous' cs := by
  have second (n : Nat) (ds : List Char) : Piece.takeAll? (Piece.lastOf previous (cs.take n)) ds p.secret =
      Piece.takeAll? (Piece.lastOf previous' (cs.take n)) ds p.secret :=
    Piece.takeAll?_congr (Piece.lastOf_congr same _) p.secret ds
  have third (n : Nat) (ds es : List Char) : Piece.takeAll? (Piece.lastOf (Piece.lastOf previous (cs.take n)) ds) es p.after =
      Piece.takeAll? (Piece.lastOf (Piece.lastOf previous' (cs.take n)) ds) es p.after :=
    Piece.takeAll?_congr (Piece.lastOf_congr (Piece.lastOf_congr same _) _) p.after es
  simp only [matchAt?, Piece.takeAll?_congr same, second, third]

theorem maskFrom_congr (same : previous.any Text.isWord = previous'.any Text.isWord) (cs : List Char) :
    p.maskFrom 0 previous cs = p.maskFrom 0 previous' cs := by
  cases cs with
  | nil => rfl
  | cons c cs => rw [maskFrom, maskFrom, matchAt?_congr same]

/-- Where no match starts in a text, masking goes on behind it. -/
theorem maskFrom_append {w rest : List Char}
    (free : ∀ u c v, w = u ++ c :: v → p.matchAt? (Piece.lastOf previous u) (c :: (v ++ rest)) = none) :
    p.maskFrom 0 previous (w ++ rest) = w ++ p.maskFrom 0 (Piece.lastOf previous w) rest := by
  induction w generalizing previous with
  | nil => rfl
  | cons c w ih =>
    have first := free [] c w rfl
    rw [Piece.lastOf_cons, List.cons_append, maskFrom]
    change p.matchAt? previous (c :: (w ++ rest)) = _ at first
    rw [first, List.cons_append]
    refine congrArg (c :: ·) (ih fun u d v cut => ?_)
    have later := free (c :: u) d v (by rw [cut]; rfl)
    rwa [Piece.lastOf_cons] at later

end CredentialPattern

/-! ## A name, an equals sign and a value -/

namespace Credential

variable {k v u d : List Char} {c : Char} {m : Match} (named : ∀ c ∈ k, isNameChar c = true)
include named

theorem colon_not_mem_name : ':' ∉ k := fun held => absurd rfl (nameChar_facts (named ':' held)).2.2.1

theorem equals_not_mem_name : '=' ∉ k := fun held => absurd rfl (nameChar_facts (named '=' held)).2.2.2.1

/-- In a name and the sign after it there is no edge with a word behind it but the one at the front. -/
theorem start_of_edge (cut : k ++ ['='] = u ++ c :: d) (edge : (Piece.lastOf none u).any Text.isWord = false) : u = [] := by
  rcases List.eq_nil_or_concat u with empty | ⟨u, e, rfl⟩
  · exact empty
  · rw [List.concat_eq_append] at cut edge
    have whole : k ++ ['='] = u ++ e :: (c :: d) := by rw [cut, List.append_assoc]; rfl
    have short : u.length < k.length := by
      have lengths := congrArg List.length whole
      simp only [List.length_append, List.length_cons, List.length_nil] at lengths
      omega
    obtain ⟨w, rfl, -⟩ := cut_left whole short
    have word := (nameChar_facts (named e (by simp))).1
    rw [Piece.lastOf_append, Piece.lastOf_cons] at edge
    exact absurd word (by simpa [Piece.lastOf] using edge)

/-- A key at the front of a name, an equals sign and a value is the whole name. -/
theorem key_of_name {r : List Char} {b : List Char} (key : IsKey b) (cut : k ++ '=' :: v = b ++ r) :
    k.map Piece.foldChar ∈ keyWords := by
  obtain ⟨word, gap, sign, gap', quote, rfl, member, blank, signs, -⟩ := key
  have split : k ++ '=' :: v = (word ++ gap) ++ sign :: (gap' ++ quote ++ r) := by simpa using cut
  have inWord : '=' ∉ word := by
    intro held
    have plain : ∀ w ∈ keyWords, '=' ∉ w := by decide +kernel
    exact plain _ member (List.mem_map.2 ⟨'=', held, by decide⟩)
  have inGap : '=' ∉ gap := not_mem_of_class blank (by decide)
  obtain rfl : sign = '=' := by
    refine signs.resolve_left fun colon => ?_
    subst colon
    rcases cut_apart split (by decide) with inside | inside
    · exact colon_not_mem_name named inside
    · simp [inWord, inGap] at inside
  obtain ⟨rfl, -⟩ := cut_at_first split (equals_not_mem_name named) (by simp [inWord, inGap])
  -- A name has no gap, so the word is the whole name.
  cases gap with
  | nil => rwa [List.append_nil]
  | cons g gap =>
    have filled := (nameChar_facts (named g (by simp))).2.1
    rw [blank g List.mem_cons_self] at filled
    cases filled

theorem key_at_name (found : keyValue.matchAt? (Piece.lastOf none u) (c :: (d ++ v)) = some m) (cut : k ++ ['='] = u ++ c :: d) :
    k.map Piece.foldChar ∈ keyWords := by
  obtain ⟨b, s, a, rest, split, shape, -⟩ := CredentialPattern.exists_matches found
  obtain ⟨key, edge⟩ := key_shape shape.1
  obtain rfl := start_of_edge named cut edge
  refine key_of_name named (v := v) (r := s ++ (a ++ rest)) key ?_
  rw [← split, ← List.cons_append, ← List.nil_append (c :: d), ← cut]
  simp

/-- No scheme of a URL begins in a name or the sign after it. -/
theorem no_login_at_name (cut : k ++ ['='] = u ++ c :: d) :
    urlCredentials.matchAt? (Piece.lastOf none u) (c :: (d ++ v)) = none := by
  cases found : urlCredentials.matchAt? (Piece.lastOf none u) (c :: (d ++ v)) with
  | none => rfl
  | some m =>
    obtain ⟨b, s, a, rest, split, shape, -⟩ := CredentialPattern.exists_matches found
    obtain ⟨⟨letter, scheme, user, rfl, isLetter, isScheme, -, -, edge⟩, -⟩ := url_shape shape
    obtain rfl := start_of_edge named cut edge
    have whole : k ++ '=' :: v = (letter :: scheme) ++ ':' :: ('/' :: '/' :: (user ++ [':']) ++ (s ++ (a ++ rest))) := by
      have joined : k ++ '=' :: v = c :: (d ++ v) := by
        rw [← List.cons_append, ← List.nil_append (c :: d), ← cut]
        simp
      rw [joined, split]
      simp
    have inScheme : '=' ∉ letter :: scheme := by
      have inRest : '=' ∉ scheme := not_mem_of_class isScheme (by decide)
      rintro (_ | held)
      · exact absurd isLetter (by decide)
      · exact inRest ‹_›
    rcases cut_apart whole (by decide) with inside | inside
    · exact absurd inside (colon_not_mem_name named)
    · exact absurd inside inScheme

omit named in
theorem maskText_behind_name (p : CredentialPattern) (free : ∀ u c d, k ++ ['='] = u ++ c :: d →
    p.matchAt? (Piece.lastOf none u) (c :: (d ++ v)) = none) : p.maskText (k ++ '=' :: v) = k ++ '=' :: p.maskText v := by
  have behind := CredentialPattern.maskFrom_append free
  have edge : (Piece.lastOf none (k ++ ['='])).any Text.isWord = Option.any Text.isWord none := by
    rw [Piece.lastOf_append]
    rfl
  rw [CredentialPattern.maskFrom_congr edge] at behind
  simpa [CredentialPattern.maskText] using behind

theorem urlCredentials_behind_name : urlCredentials.maskText (k ++ '=' :: v) = k ++ '=' :: urlCredentials.maskText v :=
  maskText_behind_name urlCredentials fun _ _ _ => no_login_at_name named

theorem keyValue_behind_name (other : k.map Piece.foldChar ∉ keyWords) :
    keyValue.maskText (k ++ '=' :: v) = k ++ '=' :: keyValue.maskText v := by
  refine maskText_behind_name keyValue fun u c d cut => ?_
  cases found : keyValue.matchAt? (Piece.lastOf none u) (c :: (d ++ v)) with
  | none => rfl
  | some m => exact absurd (key_at_name named found cut) other

omit named in
/-- The value of a key that is a word of the pattern is masked to its end. -/
theorem keyValue_masks (word : k.map Piece.foldChar ∈ keyWords) (some : v ≠ []) (value : ∀ c ∈ v, isValueChar c = true) :
    keyValue.maskText (k ++ '=' :: v) = k ++ '=' :: mask := by
  have key : IsKey (k ++ ['=']) := ⟨k, [], '=', [], [], rfl, word, by simp, .inr rfl, by simp, by simp, by simp⟩
  obtain ⟨c, rest, rfl⟩ := List.exists_cons_of_ne_nil some
  obtain ⟨s, more, split, shape⟩ : ∃ s more, c :: rest = s ++ more ∧ keyValue.Matches none (k ++ ['=']) s [] more :=
    key_matches key rfl (value c List.mem_cons_self)
  obtain ⟨filled, -, ends⟩ := keyValue_shape shape
  have whole : more = [] := by
    cases more with
    | nil => rfl
    | cons e more =>
      have refused := ends e rfl
      rw [value e (by rw [split]; simp)] at refused
      cases refused
  subst whole
  have labelled : label 0 s ≠ [] := fun empty => filled (by rw [← chars_label 0 s, empty]; rfl)
  have placed : keyValue.Matches none (chars (label 0 (k ++ ['=']))) (chars (label 0 s)) (chars []) (chars []) := by
    simpa only [chars_label, chars_nil] using shape
  have pass := congrArg chars (CredentialPattern.traceFrom_match labelled placed)
  simp only [CredentialPattern.chars_traceFrom, chars_append, chars_label, chars_veil, chars_nil, List.append_nil] at pass split
  rw [split]
  simpa [CredentialPattern.maskText, CredentialPattern.maskFrom] using pass

end Credential

/-! ## Masked texts without blanks -/

theorem CredentialPattern.forall_maskText {p : CredentialPattern} (secret : p.HasSecret) {f : Char → Prop} {cs : List Char}
    (masks : f '*') (all : ∀ c ∈ cs, f c) : ∀ c ∈ p.maskText cs, f c := by
  have kept := (passes_trace secret (label 0 cs)).veils.all masks (by rwa [chars_label])
  rwa [p.chars_trace, chars_label] at kept

theorem Credential.bearerToken_of_unbroken {cs : List Char} (unbroken : ∀ c ∈ cs, Text.isBlank c = false) :
    bearerToken.maskText cs = cs := by
  refine CredentialPattern.maskText_eq_self hasSecret_bearerToken fun x b s a y cut shape => ?_
  obtain ⟨⟨word, gap, rfl, -, some, blank⟩, -⟩ := bearer_shape shape
  obtain ⟨g, gap, rfl⟩ := List.exists_cons_of_ne_nil some
  have refused := unbroken g (by rw [cut]; simp)
  rw [blank g List.mem_cons_self] at refused
  cases refused

namespace Sanitizer

open Credential

/-- A name of ASCII letters, digits and underscores. -/
def IsName (k : String) : Prop := ∀ c ∈ k.toList, isNameChar c = true

/-- A value that is not empty and has no quotes, blanks, commas or semicolons. -/
def IsPlainValue (v : String) : Prop :=
  v ≠ "" ∧ ∀ c ∈ v.toList, c ≠ '"' ∧ c ≠ '\'' ∧ Text.isBlank c = false ∧ c ≠ ',' ∧ c ≠ ';'

-- Stated for a text's list of characters: the instance for all characters there are would run through them.
instance (k : String) : Decidable (IsName k) := decidable_of_iff (k.toList.all isNameChar = true) List.all_eq_true

instance (v : String) : Decidable (IsPlainValue v) :=
  decidable_of_iff (v ≠ "" ∧ v.toList.all isValueChar = true) (by
    simp only [IsPlainValue, List.all_eq_true, isValueChar, isQuote]
    grind)

theorem isValueChar_of_plain {v : String} (plain : IsPlainValue v) : ∀ c ∈ v.toList, isValueChar c = true := by
  intro c held
  obtain ⟨double, single, filled, comma, semicolon⟩ := plain.2 c held
  simp [isValueChar, isQuote, double, single, filled, comma, semicolon]

/-- Every word of the pattern for keys that is a name is sensitive. -/
theorem isSensitiveKey_of_word {k : String} (named : IsName k) (word : k.toList.map Piece.foldChar ∈ keyWords) :
    standard.isSensitiveKey k = true := by
  have signless : '-' ∉ k.toList.map Piece.foldChar := by
    intro held
    obtain ⟨c, mem, hyphen⟩ := List.mem_map.1 held
    exact (nameChar_facts (named c mem)).2.2.2.2.1 hyphen
  have lower : (Text.lower k).toList = k.toList.map Piece.foldChar := by
    rw [Text.lower, String.toList_ofList, lowerChars_of_name named]
  have known : ∀ w ∈ keyWords, '-' ∉ w → standard.sensitiveKeys.any (fun part => Text.holds part.toList w) = true := by
    decide +kernel
  unfold isSensitiveKey
  rw [lower]
  exact known _ word signless

theorem sanitizeChars_of_name {k v : List Char} (named : ∀ c ∈ k, isNameChar c = true) (some : v ≠ [])
    (value : ∀ c ∈ v, isValueChar c = true) : standard.sanitizeChars (k ++ '=' :: v) =
      k ++ '=' :: (if k.map Piece.foldChar ∈ keyWords then mask else standard.sanitizeChars v) := by
  have unbroken : ∀ c ∈ v, Text.isBlank c = false := by
    intro c held
    have plain := value c held
    simp only [isValueChar, Bool.not_eq_true', Bool.or_eq_false_iff] at plain
    exact plain.1.1.2
  have front : ∀ w, (∀ c ∈ w, Text.isBlank c = false) → ∀ c ∈ k ++ '=' :: w, Text.isBlank c = false := by
    intro w rest c held
    rcases List.mem_append.1 held with inName | held
    · exact (nameChar_facts (named c inName)).2.1
    · rcases List.mem_cons.1 held with rfl | held
      · decide
      · exact rest c held
  have stars : ∀ c ∈ mask, Text.isBlank c = false := by
    intro c held
    rw [eq_of_mem_mask held]
    decide
  rw [sanitizeChars_standard]
  by_cases word : k.map Piece.foldChar ∈ keyWords
  · rw [if_pos word, keyValue_masks word some value, bearerToken_of_unbroken (front mask stars),
      urlCredentials_behind_name named]
    rfl
  · have masked := CredentialPattern.forall_maskText hasSecret_keyValue (by decide) unbroken
    rw [if_neg word, keyValue_behind_name named word, bearerToken_of_unbroken (front _ masked),
      urlCredentials_behind_name named, sanitizeChars_standard, bearerToken_of_unbroken masked]

/--
Under a sensitive name a mapping holds a mask in place of a value. In a text the value after a name and an equals
sign is masked as a whole if the name is one of the words of the pattern for keys, all of which are
sensitive; after any other name, sensitive or not, the value is masked as if it stood alone.
-/
theorem name_masks_value {k v : String} (named : IsName k) (plain : IsPlainValue v) :
    (standard.isSensitiveKey k = true → standard.sanitizeMapping [(k, .text v)] = [(k, .text (String.ofList mask))]) ∧
      (k.toList.map Piece.foldChar ∈ keyWords → standard.isSensitiveKey k = true ∧
        standard.sanitizeString (k ++ "=" ++ v) = k ++ "=" ++ String.ofList mask) ∧
      (k.toList.map Piece.foldChar ∉ keyWords →
        standard.sanitizeString (k ++ "=" ++ v) = k ++ "=" ++ standard.sanitizeString v) := by
  have some : v.toList ≠ [] := fun empty => plain.1 (String.toList_inj.1 empty)
  have text := sanitizeChars_of_name named some (isValueChar_of_plain plain)
  have whole : (k ++ "=" ++ v).toList = k.toList ++ '=' :: v.toList := by simp
  refine ⟨fun sensitive => ?_, fun word => ⟨isSensitiveKey_of_word named word, ?_⟩, fun other => ?_⟩
  · have filled : isBlankValue (.text v) = false := by simpa [isBlankValue] using plain.1
    simp [sanitizeMapping, sensitive, filled]
  · rw [← String.toList_inj, toList_sanitizeString, whole, text, if_pos word]
    simp
  · rw [← String.toList_inj, toList_sanitizeString, whole, text, if_neg other]
    simp [toList_sanitizeString]

/-- A prefix before a word of the pattern keeps the word from being found. -/
theorem name_masks_database_password :
    standard.sanitizeMapping [("db_password", .text "hunter2")] = [("db_password", .text "********")] ∧
      standard.sanitizeString "db_password=hunter2" = "db_password=hunter2" ∧
      standard.sanitizeString "Password=hunter2" = "Password=********" := by
  have plain : IsPlainValue "hunter2" := by decide +kernel
  obtain ⟨mapping, -, other⟩ := name_masks_value (k := "db_password") (by decide +kernel) plain
  obtain ⟨-, word, -⟩ := name_masks_value (k := "Password") (by decide +kernel) plain
  exact ⟨mapping (by decide +kernel), (other (by decide +kernel)).trans (by decide +kernel), (word (by decide +kernel)).2⟩

theorem sensitive_value_let_through :
    (¬ ∀ k v : String, IsName k → standard.isSensitiveKey k = true → IsPlainValue v →
      standard.sanitizeMapping [(k, .text v)] = [(k, .text (String.ofList mask))] ∧
        standard.sanitizeString (k ++ "=" ++ v) = k ++ "=" ++ String.ofList mask) ∧
    ∀ k ∈ ["db_password", "passwords", "access_token", "authorization"], standard.isSensitiveKey k = true ∧
      standard.sanitizeString (k ++ "=hunter2") = k ++ "=hunter2" := by
  constructor
  · intro claim
    have plain : IsPlainValue "hunter2" := by decide +kernel
    have masked := (claim "db_password" "hunter2" (by decide +kernel) (by decide +kernel) plain).2
    exact absurd masked (by decide +kernel)
  · decide +kernel

end Sanitizer

end KeywordSuite
