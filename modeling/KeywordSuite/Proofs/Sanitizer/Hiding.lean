import KeywordSuite.Proofs.Sanitizer.Trace
import KeywordSuite.Proofs.Sanitizer.Shapes

/-!
# Credentials in sanitized texts

The three standard patterns run one after the other, each over what the one before left. A secret
that a pattern would mask in the text itself is masked unless an earlier mask tore the words that
make it known: the word and the gap before a token, the scheme, user and host sign around a password.
-/

namespace KeywordSuite

open Glyph

theorem cut_at_first {c : Char} {u v u' v' : List Char} (cut : u ++ c :: v = u' ++ c :: v') (free : c ∉ u)
    (free' : c ∉ u') : u = u' ∧ v = v' := by
  induction u generalizing u' with
  | nil =>
    cases u' with
    | nil => exact ⟨rfl, (List.cons.inj cut).2⟩
    | cons d u' =>
      obtain ⟨rfl, -⟩ := List.cons.inj cut
      exact absurd List.mem_cons_self free'
  | cons d u ih =>
    cases u' with
    | nil =>
      obtain ⟨rfl, -⟩ := List.cons.inj cut
      exact absurd List.mem_cons_self free
    | cons e u' =>
      obtain ⟨rfl, others⟩ := List.cons.inj cut
      obtain ⟨rfl, rfl⟩ := ih others (fun h => free (List.mem_cons_of_mem _ h)) fun h => free' (List.mem_cons_of_mem _ h)
      exact ⟨rfl, rfl⟩

/-- A place stands once in a text, so the text has one cut there. -/
theorem cut_unique {u v u' v' : List Glyph} {g g' : Glyph} {i : Nat} (cut : u ++ g :: v = u' ++ g' :: v')
    (distinct : (places (u ++ g :: v)).Nodup) (place : g.place = some i) (place' : g'.place = some i) :
    u = u' ∧ g = g' ∧ v = v' := by
  induction u generalizing u' with
  | nil =>
    cases u' with
    | nil =>
      cases cut
      exact ⟨rfl, rfl, rfl⟩
    | cons d u' =>
      cases cut
      simp [places_append, places_cons, place, place'] at distinct
  | cons d u ih =>
    cases u' with
    | nil =>
      cases cut
      simp [places_append, places_cons, place, place'] at distinct
    | cons e u' =>
      simp only [List.cons_append, List.cons.injEq] at cut
      obtain ⟨rfl, cut⟩ := cut
      rw [List.cons_append, places_cons, List.nodup_append] at distinct
      obtain ⟨rfl, rfl, rfl⟩ := ih cut distinct.2.1
      exact ⟨rfl, rfl, rfl⟩

namespace Credential

variable {n : Nat} {previous : Option Char} {gs out x b s a y : List Glyph} {hs : List (Nat × Match)}

theorem hasSecret_keyValue : keyValue.HasSecret := fun _ _ _ _ _ h => (keyValue_shape h).1

theorem hasSecret_bearerToken : bearerToken.HasSecret := fun _ _ _ _ _ h => (bearer_shape h).2.1.ne_nil

theorem hasSecret_urlCredentials : urlCredentials.HasSecret := fun _ _ _ _ _ h => (url_shape h).2.1.1

/-- The mask of a key's value reaches as far as the value, so what is left of a word is its start. -/
theorem seen_of_later_seen {v r : List Glyph} {g : Glyph} (h : keyValue.Passes n previous gs hs out)
    (distinct : (places gs).Nodup) (cut : gs = x ++ (v ++ g :: r)) (seen : Seen [g] out)
    (placed : Seen v gs) (value : ∀ c ∈ chars (v ++ [g]), isValueChar c = true) : Seen v out := by
  intro d member
  obtain ⟨j, there, place⟩ := placed d member
  refine ⟨j, ?_, place⟩
  by_contra gone
  obtain ⟨x₁, b, s, a, y, masked, inside⟩ := h.exists_of_hidden there gone
  obtain ⟨-, empty, ends⟩ := keyValue_shape masked.shape
  obtain rfl : a = [] := by simpa [chars] using empty
  obtain ⟨d', own, place'⟩ := mem_places.mp inside
  obtain ⟨v₁, v₂, rfl⟩ := List.append_of_mem member
  obtain ⟨s₁, s₂, rfl⟩ := List.append_of_mem own
  have same : x ++ v₁ ++ d :: (v₂ ++ g :: r) = x₁ ++ b ++ s₁ ++ d' :: (s₂ ++ y) := by
    have text := cut.symm.trans masked.text
    simpa using text
  obtain ⟨-, rfl, rest⟩ := cut_unique same (by simpa [cut] using distinct) place place'
  obtain ⟨i, shown, place⟩ := seen g List.mem_cons_self
  -- the secret would go on as far as `g`, which is still there, or end before it, where no value ends
  rcases Nat.lt_or_ge v₂.length s₂.length with longer | shorter
  · obtain ⟨s₃, rfl, -⟩ := cut_left rest.symm longer
    refine masked.hidden distinct i ?_ shown
    simp [places_append, places_cons, place]
  · obtain ⟨v₃, rfl, rfl⟩ := cut_right rest.symm shorter
    cases v₃ with
    | nil =>
      have refused := ends g.char rfl
      rw [value g.char (by simp)] at refused
      cases refused
    | cons e v₃ =>
      have refused := ends e.char rfl
      rw [value e.char (by simp)] at refused
      cases refused

/-- A token is masked wherever the word and the gap before it are still there. -/
theorem bearer_hides {v : List Glyph} (h : bearerToken.Passes n previous gs hs out) (distinct : (places gs).Nodup)
    (cut : gs = x ++ (b ++ (v ++ y))) (announced : IsBearer (chars b)) (token : IsToken (chars v))
    (seen : Seen b out) : ∀ i ∈ places v, i ∉ places out := by
  obtain ⟨u, rest, split, shape⟩ :=
    bearer_matches (Piece.lastOf previous (chars x)) (chars y) announced token
  obtain ⟨s, y, rfl, rfl, rfl⟩ := exists_of_chars_append split
  rw [← chars_append] at shape
  have text : gs = x ++ (b ++ ((v ++ s) ++ ([] ++ y))) := by simpa using cut
  obtain masked | ⟨x₁, b₁, s₁, a₁, y₁, masked, before, inside⟩ :=
    h.masked_or_within text shape (by intro empty; exact token.ne_nil (by simp [(List.append_eq_nil_iff.mp empty).1]))
  · intro i member
    exact masked.hidden distinct i (by rw [places_append]; exact List.mem_append_left _ member)
  · -- Only a secret could reach over the word, and the word is seen.
    obtain ⟨c, b', first, letter, -⟩ := announced.first
    cases b with
    | nil => cases first
    | cons g b =>
      obtain ⟨rfl, -⟩ := List.cons.inj (chars_cons.symm.trans first)
      obtain ⟨i, shown, place⟩ := seen g List.mem_cons_self
      obtain ⟨announced₁, -, empty⟩ := bearer_shape masked.shape
      obtain rfl : a₁ = [] := by simpa [chars] using empty
      obtain ⟨c₁, d₁, some, rfl, -⟩ | reached | behind := masked.within cut before inside
      · obtain ⟨c, b', first, -, others⟩ := announced₁.first
        cases c₁ with
        | nil => exact absurd rfl some
        | cons e c₁ =>
          obtain ⟨-, rfl⟩ := List.cons.inj first
          exact absurd letter (others _ (by simp))
      · exact absurd shown (masked.hidden distinct i (mem_places.mpr ⟨g, reached, place⟩))
      · cases behind

theorem IsLogin.first {previous : Option Char} {b : List Char} (h : IsLogin previous b) :
    ∃ c b', b = c :: b' ∧ Piece.isFoldedLetter c = true := by
  obtain ⟨letter, scheme, user, rfl, isLetter, -⟩ := h
  exact ⟨letter, _, rfl, isLetter⟩

theorem not_mem_of_class {f : Char → Bool} {u : List Char} {c : Char} (all : ∀ d ∈ u, f d = true)
    (refused : f c = false) : c ∉ u := by
  intro member
  rw [all c member] at refused
  cases refused

theorem not_mem_signs {l : Char} (letter : Piece.isFoldedLetter l = true) : l ∉ [':', '/'] := by
  intro member
  have refused := List.all_eq_true.mp (by decide : [':', '/'].all (!Piece.isFoldedLetter ·) = true) l member
  simp [letter] at refused

/-- A letter that stands behind a scheme stands behind its slashes. -/
theorem exists_after_slashes {l : Char} {w e d : List Char} (letter : Piece.isFoldedLetter l = true)
    (split : ':' :: '/' :: '/' :: w = e ++ l :: d) : ∃ f, e = ':' :: '/' :: '/' :: f := by
  match e, split with
  | [], h => exact absurd (by simp [← (List.cons.inj h).1]) (not_mem_signs letter)
  | [_], h =>
    simp only [List.cons_append, List.nil_append, List.cons.injEq] at h
    exact absurd (by simp [← h.2.1]) (not_mem_signs letter)
  | [_, _], h =>
    simp only [List.cons_append, List.nil_append, List.cons.injEq] at h
    exact absurd (by simp [← h.2.2.1]) (not_mem_signs letter)
  | _ :: _ :: _ :: f, h =>
    simp only [List.cons_append, List.cons.injEq] at h
    exact ⟨f, by simp [← h.1, ← h.2.1, ← h.2.2.1]⟩

/-- A login that starts inside another ends with it, and so do their passwords. -/
theorem login_within {previous previous' : Option Char} {b b₁ s s₁ r r₁ c d : List Char} {l : Char}
    (login : IsLogin previous (l :: b)) (password : IsPassword s) (login₁ : IsLogin previous' b₁)
    (password₁ : IsPassword s₁) (some : c ≠ []) (split : b₁ = c ++ l :: d)
    (same : b ++ (s ++ '@' :: r) = d ++ (s₁ ++ '@' :: r₁)) : b = d ∧ s = s₁ := by
  obtain ⟨_, scheme, user, whole, isLetter, isScheme, -, isUser, -⟩ := login
  obtain ⟨rfl, rfl⟩ := List.cons.inj whole
  obtain ⟨_, scheme₁, user₁, rfl, -, isScheme₁, -, isUser₁, -⟩ := login₁
  cases c with
  | nil => exact absurd rfl some
  | cons letter₁ c =>
    have others := (List.cons.inj split).2
    rcases Nat.lt_or_ge c.length scheme₁.length with inScheme | pastScheme
    · obtain ⟨e, rfl, rfl⟩ := cut_left others inScheme
      have schemes : ':' ∉ e := not_mem_of_class (fun d h => isScheme₁ d (by simp [h])) (by decide : isSchemeChar ':' = false)
      simp only [List.append_assoc, List.cons_append, List.nil_append] at same
      obtain ⟨rfl, same₁⟩ := cut_at_first same (not_mem_of_class isScheme (by decide)) schemes
      simp only [List.cons.injEq, true_and] at same₁
      obtain ⟨rfl, same₂⟩ := cut_at_first same₁ (not_mem_of_class isUser (by decide)) (not_mem_of_class isUser₁ (by decide))
      obtain ⟨rfl, -⟩ := cut_at_first same₂ (not_mem_of_class password.2 (by decide))
        (not_mem_of_class password₁.2 (by decide))
      exact ⟨rfl, rfl⟩
    · -- Past the scheme it starts in the user name, and then the slashes would be in the password.
      obtain ⟨e, rfl, others₁⟩ := cut_right others pastScheme
      obtain ⟨f, rfl⟩ := exists_after_slashes isLetter others₁
      have others₂ : user₁ ++ [':'] = f ++ l :: d := by simpa using others₁
      rcases Nat.lt_or_ge f.length user₁.length with inUser | pastUser
      · obtain ⟨g, rfl, rfl⟩ := cut_left others₂ inUser
        simp only [List.append_assoc, List.cons_append, List.nil_append] at same
        have users : ':' ∉ g := not_mem_of_class (fun d h => isUser₁ d (by simp [h])) (by decide : isUserChar ':' = false)
        obtain ⟨-, same₁⟩ := cut_at_first same (not_mem_of_class isScheme (by decide)) users
        cases s₁ with
        | nil => exact absurd rfl password₁.1
        | cons slash s₁ =>
          have refused := password₁.2 slash List.mem_cons_self
          rw [← (List.cons.inj same₁).1] at refused
          exact absurd refused (by decide)
      · obtain ⟨g, rfl, others₃⟩ := cut_right others₂ pastUser
        have colon : l ∈ [':'] := by simp [others₃]
        exact absurd (List.mem_cons.mpr (.inl (List.mem_singleton.mp colon))) (not_mem_signs isLetter)

/-- A password is masked wherever the login before it and the sign after it are still there. -/
theorem url_hides (h : urlCredentials.Passes n previous gs hs out) (distinct : (places gs).Nodup)
    (cut : gs = x ++ (b ++ (s ++ (a ++ y)))) (login : IsLogin (Piece.lastOf previous (chars x)) (chars b))
    (password : IsPassword (chars s)) (sign : chars a = ['@']) (seen : Seen b out) :
    ∀ i ∈ places s, i ∉ places out := by
  have shape : urlCredentials.Matches (Piece.lastOf previous (chars x)) (chars b) (chars s) (chars a) (chars y) := by
    rw [sign]
    exact url_matches login password
  obtain masked | ⟨x₁, b₁, s₁, a₁, y₁, masked, before, inside⟩ :=
    h.masked_or_within cut shape (by rintro rfl; exact password.1 rfl)
  · exact masked.hidden distinct
  · -- The login is seen, so it starts in the words before the other password, and both logins end together.
    obtain ⟨c, b', first, letter⟩ := login.first
    cases b with
    | nil => cases first
    | cons g b =>
      obtain ⟨rfl, -⟩ := List.cons.inj (chars_cons.symm.trans first)
      obtain ⟨i, shown, place⟩ := seen g List.mem_cons_self
      obtain ⟨login₁, password₁, sign₁⟩ := url_shape masked.shape
      obtain ⟨c₁, d₁, some, rfl, rest⟩ | reached | behind := masked.within cut before inside
      · have same : chars b ++ (chars s ++ '@' :: chars y) = chars d₁ ++ (chars s₁ ++ '@' :: chars y₁) := by
          have text := congrArg chars rest
          simpa [sign, sign₁] using text
        obtain ⟨ends, secrets⟩ := login_within (b := chars b) (c := chars c₁) login password login₁ password₁
          (by simpa [chars] using some) (by rw [chars_append, chars_cons]) same
        obtain ⟨rfl, rest₁⟩ := List.append_inj rest (by simpa only [length_chars] using congrArg List.length ends)
        obtain ⟨rfl, -⟩ := List.append_inj rest₁ (by simpa only [length_chars] using congrArg List.length secrets)
        exact masked.hidden distinct
      · exact absurd shown (masked.hidden distinct i (mem_places.mpr ⟨g, reached, place⟩))
      · have behind : g.char ∈ ['@'] := sign₁ ▸ List.mem_map.mpr ⟨g, behind, rfl⟩
        rw [List.mem_singleton.mp behind] at letter
        exact absurd letter (by decide)

theorem IsLogin.after {b : List Char} (h : Veils gs out)
    (login : IsLogin (Piece.lastOf previous (chars gs)) b) : IsLogin (Piece.lastOf previous (chars out)) b := by
  obtain ⟨letter, scheme, user, rfl, isLetter, isScheme, some, isUser, edge⟩ := login
  refine ⟨letter, scheme, user, rfl, isLetter, isScheme, some, isUser, ?_⟩
  obtain same | mask := h.lastOf previous
  · rw [same]
    exact edge
  · rw [mask]
    decide

theorem IsPassword.after (h : Veils gs out) (password : IsPassword (chars gs)) :
    IsPassword (chars out) :=
  ⟨by simpa [chars] using h.ne_nil (by simpa [chars] using password.1), h.all (by decide) password.2⟩

end Credential

namespace Sanitizer

open Credential

/-- A text sanitized, with the places of what is left of it. -/
def trace (s : Sanitizer) (cs : List Char) : List Glyph :=
  (s.patterns.filter (·.enabled)).foldl (fun gs p => p.trace gs) (label 0 cs)

theorem chars_foldl_trace (ps : List CredentialPattern) (gs : List Glyph) :
    chars (ps.foldl (fun gs p => p.trace gs) gs) = ps.foldl (fun text p => p.maskText text) (chars gs) := by
  induction ps generalizing gs with
  | nil => rfl
  | cons p ps ih => rw [List.foldl_cons, List.foldl_cons, ih, p.chars_trace]

theorem chars_trace (s : Sanitizer) (cs : List Char) : chars (s.trace cs) = s.sanitizeChars cs := by
  rw [trace, chars_foldl_trace, chars_label, sanitizeChars]

variable {cs x b s a y : List Char}

def afterKeys (cs : List Char) : List Glyph := keyValue.trace (label 0 cs)

def afterTokens (cs : List Char) : List Glyph := bearerToken.trace (afterKeys cs)

theorem veils_keys (cs : List Char) : Veils (label 0 cs) (afterKeys cs) :=
  (CredentialPattern.passes_trace hasSecret_keyValue _).veils

theorem veils_tokens (cs : List Char) : Veils (afterKeys cs) (afterTokens cs) :=
  (CredentialPattern.passes_trace hasSecret_bearerToken _).veils

theorem veils_urls (cs : List Char) : Veils (afterTokens cs) (standard.trace cs) :=
  (CredentialPattern.passes_trace hasSecret_urlCredentials _).veils

/-- What is seen in the end is seen after every pattern. -/
theorem places_subset_tokens (cs : List Char) : places (standard.trace cs) ⊆ places (afterTokens cs) :=
  (veils_urls cs).sublist.subset

theorem places_subset_keys (cs : List Char) : places (afterTokens cs) ⊆ places (afterKeys cs) :=
  (veils_tokens cs).sublist.subset

theorem hides_token (cut : cs = x ++ (b ++ (s ++ y))) (announced : IsBearer b) (token : IsToken s)
    (shows : Shows (standard.trace cs) x.length (x.length + b.length)) :
    Hides (standard.trace cs) (x.length + b.length) (x.length + b.length + s.length) := by
  intro i low high shown
  obtain ⟨v, c, r, rfl, start⟩ : ∃ v c r, s = v ++ c :: r ∧ x.length + b.length + v.length = i := by
    refine ⟨s.take (i - (x.length + b.length)), s[i - (x.length + b.length)], s.drop (i - (x.length + b.length) + 1), ?_, ?_⟩
    · rw [← List.drop_eq_getElem_cons, List.take_append_drop]
    · rw [List.length_take]
      omega
  have seen : Seen (label x.length b) (standard.trace cs) := seen_label shows
  have text : label 0 cs = (label 0 x ++ label x.length b) ++ (label (x.length + b.length) v ++
      ⟨some i, c⟩ :: label (i + 1) (r ++ y)) := by
    simp only [cut, ← start, label_append, label, List.append_assoc, List.cons_append, Nat.zero_add]
  have distinct := nodup_label 0 cs
  have last : Seen [⟨some i, c⟩] (afterKeys cs) := by
    intro g member
    rw [List.mem_singleton.mp member]
    exact ⟨i, places_subset_keys cs (places_subset_tokens cs shown), rfl⟩
  have started : IsToken (v ++ [c]) := by
    rw [List.append_cons] at token
    exact token.left (by simp)
  -- The place is seen, so no key has masked the token before it either, and the word is followed by it.
  have others : Seen (label (x.length + b.length) v) (afterKeys cs) := by
    refine seen_of_later_seen (CredentialPattern.passes_trace hasSecret_keyValue _) distinct text last
      (seen_label fun j low high => ?_) (by simpa using started.isValueChar)
    rw [mem_places_label, cut]
    simp only [List.length_append, List.length_cons]
    omega
  obtain ⟨x', y', cut', -, -⟩ : ∃ x' y', afterKeys cs = x' ++ (label x.length b ++
      (label (x.length + b.length) v ++ [⟨some i, c⟩]) ++ y') ∧ Veils (label 0 x) x' ∧ Veils (label (i + 1) (r ++ y)) y' := by
    have text' : label 0 cs = label 0 x ++ (label x.length b ++
        (label (x.length + b.length) v ++ [⟨some i, c⟩]) ++ label (i + 1) (r ++ y)) := by simp [text]
    refine Veils.infix_of_visible (text' ▸ veils_keys cs) (text' ▸ distinct) ?_ (by simp)
    refine List.forall_mem_append.mpr ⟨?_, List.forall_mem_append.mpr ⟨others, last⟩⟩
    exact seen.of_subset (List.Subset.trans (places_subset_tokens cs) (places_subset_keys cs))
  have hidden := bearer_hides (CredentialPattern.passes_trace hasSecret_bearerToken _) ((veils_keys cs).nodup distinct)
    (by simpa using cut') (by simpa using announced) (v := label (x.length + b.length) v ++ [⟨some i, c⟩])
    (by simpa using started) (seen.of_subset (places_subset_tokens cs))
  exact hidden i (by simp [places_cons]) (places_subset_tokens cs shown)

theorem hides_password (cut : cs = x ++ (b ++ (s ++ (a ++ y)))) (login : IsLogin (Piece.lastOf none x) b)
    (password : IsPassword s) (sign : a = ['@'])
    (shows : Shows (standard.trace cs) x.length (x.length + b.length))
    (signed : Shows (standard.trace cs) (x.length + b.length + s.length) (x.length + b.length + s.length + a.length)) :
    Hides (standard.trace cs) (x.length + b.length) (x.length + b.length + s.length) := by
  intro i low high shown
  have before := seen_label shows
  have after := seen_label signed
  have distinct := nodup_label 0 cs
  have text : label 0 cs = label 0 x ++ (label x.length b ++ (label (x.length + b.length) s ++
      (label (x.length + b.length + s.length) a ++ label (x.length + b.length + s.length + a.length) y))) := by
    simp only [cut, label_append, Nat.zero_add]
  have some : label x.length b ≠ [] := by
    obtain ⟨c, b', rfl, -⟩ := login.first
    simp [label]
  have some' : label (x.length + b.length + s.length) a ≠ [] := by simp [sign, label]
  -- login and sign are followed through the two patterns before: between them stands the password all along
  obtain ⟨x₁, s₁, y₁, text₁, hx₁, hs₁, hy₁⟩ := Veils.between_of_visible (text ▸ veils_keys cs) (text ▸ distinct)
    (before.of_subset (List.Subset.trans (places_subset_tokens cs) (places_subset_keys cs)))
    (after.of_subset (List.Subset.trans (places_subset_tokens cs) (places_subset_keys cs))) some some'
  obtain ⟨x₂, s₂, y₂, text₂, hx₂, hs₂, hy₂⟩ := Veils.between_of_visible (text₁ ▸ veils_tokens cs)
    (text₁ ▸ (veils_keys cs).nodup distinct) (before.of_subset (places_subset_tokens cs))
    (after.of_subset (places_subset_tokens cs)) some some'
  have distinct₂ := (veils_tokens cs).nodup ((veils_keys cs).nodup distinct)
  have login₀ : IsLogin (Piece.lastOf none (chars (label 0 x))) b := by simpa using login
  have password₀ : IsPassword (chars (label (x.length + b.length) s)) := by simpa using password
  have hidden := url_hides (CredentialPattern.passes_trace hasSecret_urlCredentials _) distinct₂ text₂
    (by simpa using (login₀.after hx₁).after hx₂) ((password₀.after hs₁).after hs₂) (by simpa using sign) before
  refine hidden i ?_ shown
  have there := places_subset_tokens cs shown
  have own : i ∈ places (label (x.length + b.length) s) := mem_places_label.mpr ⟨low, high⟩
  rw [text] at distinct
  simp only [text₂, places_append, List.mem_append, List.nodup_append] at there distinct
  have left := (hx₂.sublist.trans hx₁.sublist).subset (a := i)
  have right := (hy₂.sublist.trans hy₁.sublist).subset (a := i)
  grind

theorem hides_value {n : Nat} {m : Match} (hit : (n, m) ∈ keyValue.hits cs) :
    Hides (standard.trace cs) (n + m.before) (n + m.before + m.secret) := by
  obtain ⟨x, b, s, a, y, -, -, rfl, rfl, hides⟩ := CredentialPattern.exists_of_mem_hits hasSecret_keyValue hit
  exact hides.of_subset (List.Subset.trans (places_subset_tokens cs) (places_subset_keys cs))

theorem hides_hit {n : Nat} {m : Match} {p : CredentialPattern} (known : p ∈ defaultPatterns) (hit : (n, m) ∈ p.hits cs)
    (before : Shows (standard.trace cs) n (n + m.before))
    (after : Shows (standard.trace cs) (n + m.before + m.secret) (n + m.length)) :
    Hides (standard.trace cs) (n + m.before) (n + m.before + m.secret) := by
  simp only [defaultPatterns, List.mem_cons, List.not_mem_nil, or_false] at known
  obtain rfl | rfl | rfl := known
  · exact hides_value hit
  · obtain ⟨x, b, s, a, y, cut, shape, rfl, rfl, -⟩ := CredentialPattern.exists_of_mem_hits hasSecret_bearerToken hit
    obtain ⟨announced, token, rfl⟩ := bearer_shape shape
    exact hides_token cut announced token before
  · obtain ⟨x, b, s, a, y, cut, shape, rfl, rfl, -⟩ := CredentialPattern.exists_of_mem_hits hasSecret_urlCredentials hit
    obtain ⟨login, password, sign⟩ := url_shape shape
    refine hides_password cut login password sign before ?_
    simpa only [Match.length, Nat.add_assoc] using after

theorem stems_of_mem_trace {g : Glyph} (h : g ∈ standard.trace cs) :
    g = ⟨none, '*'⟩ ∨ ∃ i, g.place = some i ∧ cs[i]? = some g.char := by
  obtain there | masks := (veils_urls cs).mem g h
  · obtain there | masks := (veils_tokens cs).mem g there
    · obtain there | masks := (veils_keys cs).mem g there
      · obtain ⟨i, place, char⟩ := stems_of_mem_label there
        exact .inr ⟨i, by rw [place, Nat.zero_add], char⟩
      · exact .inl (eq_of_mem_veil masks)
    · exact .inl (eq_of_mem_veil masks)
  · exact .inl (eq_of_mem_veil masks)

theorem not_infix_of_bearer {a w : List Char} (cut : cs = a ++ ("Bearer ".toList ++ w)) (some : w ≠ [])
    (token : ∀ c ∈ w, isTokenChar c = true) (fresh : ¬ w <:+: a ++ "Bearer ".toList)
    (seen : Shows (standard.trace cs) a.length (a.length + 7)) : ¬ w <:+: standard.sanitizeChars cs := by
  have announced : IsBearer "Bearer ".toList :=
    ⟨"Bearer".toList, [' '], rfl, by decide, by simp, List.all_eq_true.mp (by decide)⟩
  have hides := hides_token (y := []) (by rw [List.append_nil]; exact cut) announced
    ⟨w, [], by simp, some, token, by simp⟩ seen
  rw [← chars_trace]
  rintro ⟨x, y, split⟩
  rw [List.append_assoc] at split
  obtain ⟨x', r, text, rfl, split₁⟩ := exists_of_chars_append split.symm
  obtain ⟨w, y', rfl, rfl, rfl⟩ := exists_of_chars_append split₁
  have clear : ∀ g ∈ w, g ∉ veil := by
    intro g member masks
    have refused := token g.char (List.mem_map.mpr ⟨g, member, rfl⟩)
    rw [eq_of_mem_veil masks] at refused
    exact absurd refused (by decide)
  -- What has no star in it was there before each pattern, and so it stands in the text.
  have kept : Veils (afterTokens cs) (x' ++ (w ++ y')) := text ▸ veils_urls cs
  have filled : w ≠ [] := by simpa [chars] using some
  obtain ⟨x₁, y₁, text₁, -⟩ := kept.infix_of_clear clear filled
  obtain ⟨x₂, y₂, text₂, -⟩ := (text₁ ▸ veils_tokens cs).infix_of_clear clear filled
  obtain ⟨x₃, y₃, text₃, -⟩ := (text₂ ▸ veils_keys cs).infix_of_clear clear filled
  have whole : cs = chars x₃ ++ chars w ++ chars y₃ := by
    rw [← chars_label 0 cs, text₃, chars_append, chars_append, List.append_assoc]
  have reaches : a.length + 7 < x₃.length + w.length := by
    refine Nat.lt_of_not_le fun inside => fresh ?_
    have start : chars x₃ ++ chars w <+: a ++ "Bearer ".toList := by
      have left : chars x₃ ++ chars w <+: cs := ⟨chars y₃, whole.symm⟩
      have right : a ++ "Bearer ".toList <+: cs := ⟨chars w, by rw [cut, List.append_assoc]⟩
      exact List.prefix_of_prefix_length_le left right (by simpa using inside)
    exact (List.suffix_append _ _).isInfix.trans start.isInfix
  have total : x₃.length + w.length + y₃.length = a.length + 7 + w.length := by
    have lengths := congrArg List.length (whole.symm.trans cut)
    simp only [List.length_append, length_chars] at lengths
    have bearer : "Bearer ".toList.length = 7 := rfl
    omega
  -- The last character of such a token would lie in the token that is masked.
  obtain ⟨-, others⟩ := label_eq_append text₃
  obtain ⟨own, -⟩ := label_eq_append others.symm
  have last : x₃.length + w.length - 1 ∈ places w := by
    rw [congrArg places own, mem_places_label, length_chars]
    omega
  refine hides (x₃.length + w.length - 1) ?_ ?_ (by simp [text, last])
  · have bearer : "Bearer ".toList.length = 7 := rfl
    omega
  · have bearer : "Bearer ".toList.length = 7 := rfl
    rw [length_chars]
    omega

/-- What `standard` masks: the value of every key, and every other secret of which the words around
it are still seen. A token after a bearer word that is still seen is nowhere in what is left. -/
theorem standard_hides (cs : List Char) :
    chars (standard.trace cs) = standard.sanitizeChars cs ∧
    (∀ g ∈ standard.trace cs, g = ⟨none, '*'⟩ ∨ ∃ i, g.place = some i ∧ cs[i]? = some g.char) ∧
    (∀ n m, (n, m) ∈ keyValue.hits cs →
      Hides (standard.trace cs) (n + m.before) (n + m.before + m.secret)) ∧
    (∀ p ∈ defaultPatterns, ∀ n m, (n, m) ∈ p.hits cs →
      Shows (standard.trace cs) n (n + m.before) →
      Shows (standard.trace cs) (n + m.before + m.secret) (n + m.length) →
      Hides (standard.trace cs) (n + m.before) (n + m.before + m.secret)) ∧
    ∀ a w, cs = a ++ ("Bearer ".toList ++ w) → w ≠ [] → (∀ c ∈ w, isTokenChar c = true) →
      ¬ w <:+: a ++ "Bearer ".toList → Shows (standard.trace cs) a.length (a.length + 7) →
      ¬ w <:+: standard.sanitizeChars cs := by
  refine ⟨chars_trace standard cs, fun g => stems_of_mem_trace, ?_, fun p known n m => hides_hit known,
    fun a w => not_infix_of_bearer⟩
  exact fun n m => hides_value

theorem authorization_hides :
    Hides (standard.trace "Authorization: Bearer abc123".toList) 22 28 ∧
      ¬ "abc123".toList <:+: standard.sanitizeChars "Authorization: Bearer abc123".toList := by
  obtain ⟨-, -, -, hits, tokens⟩ := standard_hides "Authorization: Bearer abc123".toList
  have seen : ∀ i < 22, 15 ≤ i → i ∈ places (standard.trace "Authorization: Bearer abc123".toList) := by
    decide +kernel
  constructor
  · refine hits bearerToken (by simp [defaultPatterns]) 15 ⟨7, 6, 0⟩ (by decide +kernel) ?_ ?_
    · exact fun i low high => seen i high low
    · exact fun i low high => absurd high (Nat.not_lt.mpr low)
  · refine tokens "Authorization: ".toList "abc123".toList (by decide) (by decide)
      (List.all_eq_true.mp (by decide +kernel)) ?_ ?_
    · rw [← Text.holds_iff]
      decide +kernel
    · exact fun i low high => seen i high low

/-- A key takes the word `Bearer` for its value, and the token after it is let through. -/
theorem bearer_after_key_let_through :
    (¬ ∀ (cs : List Char), ∀ p ∈ defaultPatterns, ∀ n m, (n, m) ∈ p.hits cs →
      Hides (standard.trace cs) (n + m.before) (n + m.before + m.secret)) ∧
    ¬ ∀ a w : List Char, w ≠ [] → (∀ c ∈ w, isTokenChar c = true) → ¬ w <:+: a ++ "Bearer ".toList →
      ¬ w <:+: standard.sanitizeChars (a ++ ("Bearer ".toList ++ w)) := by
  constructor
  · intro claim
    have hidden := claim "token: Bearer abc123".toList bearerToken (by simp [defaultPatterns]) 7 ⟨7, 6, 0⟩
      (by decide +kernel)
    exact hidden 14 (by decide) (by decide) (by decide +kernel)
  · intro claim
    have absent := claim "token: ".toList "abc123".toList (by decide)
      (List.all_eq_true.mp (by decide +kernel))
    rw [← Text.holds_iff, ← Text.holds_iff] at absent
    exact absent (by decide +kernel) (by decide +kernel)

end Sanitizer

end KeywordSuite
