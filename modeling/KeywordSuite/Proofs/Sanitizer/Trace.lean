import KeywordSuite.Proofs.Sanitizer.Pieces

/-!
# Where the characters of a masked text come from

Masking is run on characters that carry their place in the text. What a run of a pattern does is
described once, by its matches from left to right; that a secret is gone, that the rest is kept in
its order, and that every other match overlaps one that was masked are read off from there.
-/

namespace KeywordSuite

theorem cut_left {α : Type} {u v c r : List α} {g : α} (cut : u ++ v = c ++ g :: r) (h : c.length < u.length) :
    ∃ d, u = c ++ g :: d ∧ r = d ++ v := by
  obtain ⟨d, rfl, -⟩ | ⟨d, rfl, rest⟩ := List.append_eq_append_iff.mp cut
  · rw [List.length_append] at h
    omega
  · cases d with
    | nil => simp at h
    | cons e d =>
      cases rest
      exact ⟨d, rfl, rfl⟩

theorem cut_right {α : Type} {u v c r : List α} {g : α} (cut : u ++ v = c ++ g :: r) (h : u.length ≤ c.length) :
    ∃ e, c = u ++ e ∧ v = e ++ g :: r := by
  obtain ⟨e, rfl, rest⟩ | ⟨d, rfl, rest⟩ := List.append_eq_append_iff.mp cut
  · exact ⟨e, rfl, rest⟩
  · have empty : d = [] := by
      rw [List.length_append] at h
      exact List.eq_nil_of_length_eq_zero (by omega)
    subst empty
    exact ⟨[], by simp, rest.symm⟩

/-- A character with its place in the text it comes from; the mask comes from no place. -/
structure Glyph where
  place : Option Nat
  char : Char
  deriving DecidableEq, Repr

namespace Glyph

def label (n : Nat) : List Char → List Glyph
  | [] => []
  | c :: cs => ⟨some n, c⟩ :: label (n + 1) cs

def veil : List Glyph := mask.map fun c => ⟨none, c⟩

def chars (gs : List Glyph) : List Char := gs.map (·.char)

def places (gs : List Glyph) : List Nat := gs.filterMap (·.place)

variable {g : Glyph} {gs gs₁ gs₂ : List Glyph}

@[simp] theorem chars_nil : chars [] = [] := rfl

@[simp] theorem chars_cons : chars (g :: gs) = g.char :: chars gs := rfl

@[simp] theorem chars_append : chars (gs₁ ++ gs₂) = chars gs₁ ++ chars gs₂ := List.map_append

@[simp] theorem length_chars : (chars gs).length = gs.length := List.length_map _

@[simp] theorem chars_veil : chars veil = mask := rfl

@[simp] theorem places_veil : places veil = [] := rfl

theorem eq_of_mem_mask {c : Char} : c ∈ mask → c = '*' := List.eq_of_mem_replicate (n := 8)

theorem eq_of_mem_veil : g ∈ veil → g = ⟨none, '*'⟩ := List.eq_of_mem_replicate (n := 8)

@[simp] theorem places_append : places (gs₁ ++ gs₂) = places gs₁ ++ places gs₂ := List.filterMap_append

theorem exists_of_chars_append {cs ds : List Char} (h : chars gs = cs ++ ds) :
    ∃ u v, gs = u ++ v ∧ chars u = cs ∧ chars v = ds := by
  obtain ⟨u, v, split, left, right⟩ := List.map_eq_append_iff.mp h
  exact ⟨u, v, split, left, right⟩

theorem mem_places {i : Nat} : i ∈ places gs ↔ ∃ g ∈ gs, g.place = some i := by
  simp [places]

theorem places_cons : places (g :: gs) = g.place.toList ++ places gs := by
  cases place : g.place <;> simp [places, place]

@[simp] theorem chars_label (n : Nat) (cs : List Char) : chars (label n cs) = cs := by
  induction cs generalizing n with
  | nil => rfl
  | cons c cs ih => rw [label, chars_cons, ih]

theorem label_append (n : Nat) (cs ds : List Char) :
    label n (cs ++ ds) = label n cs ++ label (n + cs.length) ds := by
  induction cs generalizing n with
  | nil => rfl
  | cons c cs ih =>
    rw [List.cons_append, label, ih, List.length_cons, Nat.add_right_comm n, Nat.add_assoc n, label, List.cons_append]

theorem places_label (n : Nat) (cs : List Char) : places (label n cs) = List.range' n cs.length := by
  induction cs generalizing n with
  | nil => rfl
  | cons c cs ih =>
    rw [label, List.length_cons, List.range'_succ, ← ih]
    rfl

theorem mem_places_label {n i : Nat} {cs : List Char} : i ∈ places (label n cs) ↔ n ≤ i ∧ i < n + cs.length := by
  rw [places_label, List.mem_range'_1]

theorem stems_of_mem_label {n : Nat} {cs : List Char} {g : Glyph} (h : g ∈ label n cs) :
    ∃ i, g.place = some (n + i) ∧ cs[i]? = some g.char := by
  induction cs generalizing n with
  | nil => cases h
  | cons c cs ih =>
    cases h with
    | head => exact ⟨0, rfl, rfl⟩
    | tail _ later =>
      obtain ⟨i, place, char⟩ := ih later
      exact ⟨i + 1, by rw [place, Nat.add_right_comm, Nat.add_assoc], char⟩

theorem nodup_label (n : Nat) (cs : List Char) : (places (label n cs)).Nodup := by
  rw [places_label]
  exact List.nodup_range'

theorem label_eq_append {n : Nat} {cs : List Char} {u v : List Glyph} (h : label n cs = u ++ v) :
    u = label n (chars u) ∧ v = label (n + u.length) (chars v) := by
  have text : chars u ++ chars v = cs := by rw [← chars_append, ← h, chars_label]
  rw [← text, label_append, length_chars] at h
  exact (List.append_inj h (by rw [← length_chars, chars_label, length_chars])).imp Eq.symm Eq.symm

/-- Whether every place from `first` on up to `last` is seen. -/
def Shows (gs : List Glyph) (first last : Nat) : Prop := ∀ i, first ≤ i → i < last → i ∈ places gs

/-- Whether no place from `first` on up to `last` is seen. -/
def Hides (gs : List Glyph) (first last : Nat) : Prop := ∀ i, first ≤ i → i < last → i ∉ places gs

theorem Hides.of_subset {gs out : List Glyph} {first last : Nat} (h : Hides gs first last)
    (less : places out ⊆ places gs) : Hides out first last :=
  fun i low high seen => h i low high (less seen)

end Glyph

/-- Whether every character of `w` is one of `out` and comes from a place. -/
def Seen (w out : List Glyph) : Prop := ∀ g ∈ w, ∃ i ∈ Glyph.places out, g.place = some i

theorem Seen.of_subset {w out out' : List Glyph} (h : Seen w out) (more : Glyph.places out ⊆ Glyph.places out') :
    Seen w out' := by
  intro g member
  obtain ⟨i, seen, place⟩ := h g member
  exact ⟨i, more seen, place⟩

/-- Stretches of `gs` are replaced by the mask, and everything else is kept. -/
inductive Veils : List Glyph → List Glyph → Prop
  | nil : Veils [] []
  | keep (g : Glyph) {gs out : List Glyph} : Veils gs out → Veils (g :: gs) (g :: out)
  | hide {s gs out : List Glyph} : s ≠ [] → Veils gs out → Veils (s ++ gs) (Glyph.veil ++ out)

theorem seen_label {n : Nat} {cs : List Char} {out : List Glyph} (h : Glyph.Shows out n (n + cs.length)) :
    Seen (Glyph.label n cs) out := by
  intro g member
  induction cs generalizing n with
  | nil => cases member
  | cons c cs ih =>
    rw [List.length_cons] at h
    cases member with
    | head => exact ⟨n, h n (Nat.le_refl n) (by omega), rfl⟩
    | tail _ later => exact ih (fun i low high => h i (by omega) (by omega)) later

namespace Veils

open Glyph

variable {g : Glyph} {gs gs₁ gs₂ out out₁ out₂ w x y : List Glyph}

theorem refl (gs : List Glyph) : Veils gs gs := by
  induction gs with
  | nil => exact nil
  | cons g gs ih => exact keep g ih

theorem append (h₁ : Veils gs₁ out₁) (h₂ : Veils gs₂ out₂) : Veils (gs₁ ++ gs₂) (out₁ ++ out₂) := by
  induction h₁ with
  | nil => exact h₂
  | keep g _ ih => exact keep g ih
  | hide some _ ih =>
    rw [List.append_assoc, List.append_assoc]
    exact hide some ih

theorem nil_left (h : Veils [] out) : out = [] := by
  generalize empty : ([] : List Glyph) = gs at h
  cases h with
  | nil => rfl
  | keep g h => cases empty
  | hide some h => exact absurd (List.append_eq_nil_iff.mp empty.symm).1 some

theorem ne_nil (h : Veils gs out) (some : gs ≠ []) : out ≠ [] := by
  cases h with
  | nil => exact some
  | keep g h => exact List.cons_ne_nil _ _
  | hide _ h => exact List.append_ne_nil_of_left_ne_nil (by decide) _

theorem sublist (h : Veils gs out) : (places out).Sublist (places gs) := by
  induction h with
  | nil => exact List.Sublist.refl _
  | keep g _ ih =>
    rw [places_cons, places_cons]
    exact ih.append_left _
  | hide _ _ ih =>
    rw [places_append, places_append, places_veil]
    exact ih.trans (List.sublist_append_right _ _)

theorem nodup (h : Veils gs out) (distinct : (places gs).Nodup) : (places out).Nodup :=
  distinct.sublist h.sublist

theorem mem (h : Veils gs out) : ∀ g ∈ out, g ∈ gs ∨ g ∈ veil := by
  induction h with
  | nil => exact fun g member => .inl member
  | keep d _ ih => grind
  | hide _ _ ih => grind

theorem all {f : Char → Prop} (h : Veils gs out) (masks : f '*') (all : ∀ c ∈ chars gs, f c) :
    ∀ c ∈ chars out, f c := by
  induction h with
  | nil => exact all
  | keep g _ ih =>
    rw [chars_cons, List.forall_mem_cons] at all ⊢
    exact ⟨all.1, ih all.2⟩
  | hide _ _ ih =>
    rw [chars_append, List.forall_mem_append] at all ⊢
    refine ⟨fun c member => ?_, ih all.2⟩
    rw [chars_veil] at member
    rw [eq_of_mem_mask member]
    exact masks

/-- What stands before the text that follows is the same character, or the mask. -/
theorem lastOf (previous : Option Char) (h : Veils gs out) :
    Piece.lastOf previous (chars out) = Piece.lastOf previous (chars gs) ∨
      Piece.lastOf previous (chars out) = some '*' := by
  induction h generalizing previous with
  | nil => exact .inl rfl
  | keep g _ ih =>
    rw [chars_cons, chars_cons, Piece.lastOf_cons, Piece.lastOf_cons]
    exact ih _
  | @hide s gs out _ h ih =>
    rw [chars_append, chars_append, Piece.lastOf_append, Piece.lastOf_append]
    by_cases empty : gs = []
    · subst empty
      rw [h.nil_left]
      exact .inr rfl
    · have kept : chars out ≠ [] := by simpa [chars] using h.ne_nil empty
      rw [Piece.lastOf_eq kept]
      exact ih _

/-- What is seen of a place afterwards splits the text in two there. -/
theorem split {i : Nat} (h : Veils gs out) (distinct : (places gs).Nodup) (cut : gs = x ++ g :: y)
    (place : g.place = some i) (visible : i ∈ places out) :
    ∃ x' y', out = x' ++ g :: y' ∧ Veils x x' ∧ Veils y y' := by
  induction h generalizing x with
  | nil => simp at cut
  | @keep d gs out h ih =>
    rw [places_cons, List.nodup_append] at distinct
    cases x with
    | nil =>
      cases cut
      exact ⟨[], out, rfl, nil, h⟩
    | cons e x =>
      cases cut
      have later : i ∈ places (x ++ g :: y) := by simp [places_append, places_cons, place]
      rw [places_cons, List.mem_append] at visible
      have visible : i ∈ places out := by
        refine visible.resolve_left fun first => ?_
        exact distinct.2.2 i first i later rfl
      obtain ⟨x', y', rfl, hx, hy⟩ := ih distinct.2.1 rfl visible
      exact ⟨d :: x', y', rfl, keep d hx, hy⟩
  | @hide s gs out some h ih =>
    rw [places_append, List.nodup_append] at distinct
    rw [places_append, places_veil, List.nil_append] at visible
    obtain ⟨x₁, rfl, rfl⟩ : ∃ x₁, x = s ++ x₁ ∧ gs = x₁ ++ g :: y := by
      refine cut_right cut (Nat.le_of_not_lt fun inside => ?_)
      obtain ⟨d, rfl, -⟩ := cut_left cut inside
      refine distinct.2.2 i ?_ i (h.sublist.subset visible) rfl
      simp [places_append, places_cons, place]
    obtain ⟨x', y', rfl, hx, hy⟩ := ih distinct.2.1 rfl visible
    exact ⟨veil ++ x', y', by simp, hide some hx, hy⟩

theorem prefix_of_visible (h : Veils (w ++ y) out) (distinct : (places (w ++ y)).Nodup)
    (visible : Seen w out) : ∃ y', out = w ++ y' ∧ Veils y y' := by
  induction w generalizing out with
  | nil => exact ⟨out, rfl, h⟩
  | cons g w ih =>
    obtain ⟨i, seen, place⟩ := visible g List.mem_cons_self
    obtain ⟨x', r, rfl, hx, hr⟩ := h.split distinct (x := []) rfl place seen
    obtain rfl := hx.nil_left
    rw [List.cons_append, places_cons, List.nodup_append] at distinct
    have others : Seen w r := by
      intro d member
      obtain ⟨j, seen, own⟩ := visible d (List.mem_cons_of_mem _ member)
      rw [List.nil_append, places_cons, List.mem_append] at seen
      refine ⟨j, seen.resolve_left fun first => ?_, own⟩
      refine distinct.2.2 j first j ?_ rfl
      rw [places_append]
      exact List.mem_append_left _ (mem_places.mpr ⟨d, member, own⟩)
    obtain ⟨y', rfl, hy⟩ := ih hr distinct.2.1 others
    exact ⟨y', rfl, hy⟩

/-- A stretch of which every place is still seen is still there as a whole. -/
theorem infix_of_visible (h : Veils (x ++ (w ++ y)) out) (distinct : (places (x ++ (w ++ y))).Nodup)
    (visible : Seen w out) (some : w ≠ []) : ∃ x' y', out = x' ++ (w ++ y') ∧ Veils x x' ∧ Veils y y' := by
  obtain ⟨g, w, rfl⟩ := List.exists_cons_of_ne_nil some
  obtain ⟨i, seen, place⟩ := visible g List.mem_cons_self
  obtain ⟨x', r, rfl, hx, hr⟩ := h.split distinct rfl place seen
  have front : Veils (g :: w ++ y) (g :: r) := keep g hr
  rw [places_append, List.nodup_append] at distinct
  have own : Seen (g :: w) (g :: r) := by
    intro d member
    obtain ⟨j, seen, place⟩ := visible d member
    rw [places_append, List.mem_append] at seen
    refine ⟨j, seen.resolve_left fun earlier => ?_, place⟩
    refine distinct.2.2 j (hx.sublist.subset earlier) j ?_ rfl
    rw [places_append]
    exact List.mem_append_left _ (mem_places.mpr ⟨d, member, place⟩)
  obtain ⟨y', rest, hy⟩ := front.prefix_of_visible distinct.2.1 own
  exact ⟨x', y', by rw [rest], hx, hy⟩

/-- What stands between two stretches that are still seen is masked by itself. -/
theorem between_of_visible {b s a : List Glyph} (h : Veils (x ++ (b ++ (s ++ (a ++ y)))) out)
    (distinct : (places (x ++ (b ++ (s ++ (a ++ y))))).Nodup) (before : Seen b out) (after : Seen a out)
    (some : b ≠ []) (some' : a ≠ []) :
    ∃ x' s' y', out = x' ++ (b ++ (s' ++ (a ++ y'))) ∧ Veils x x' ∧ Veils s s' ∧ Veils y y' := by
  obtain ⟨x', r, rfl, hx, hr⟩ := h.infix_of_visible distinct before some
  rw [← List.append_assoc, places_append, List.nodup_append] at distinct
  have own : Seen a r := by
    intro d member
    obtain ⟨j, seen, place⟩ := after d member
    rw [← List.append_assoc, places_append, List.mem_append] at seen
    refine ⟨j, seen.resolve_left fun earlier => ?_, place⟩
    refine distinct.2.2 j ((hx.append (.refl b)).sublist.subset earlier) j ?_ rfl
    rw [places_append, places_append]
    exact List.mem_append_right _ (List.mem_append_left _ (mem_places.mpr ⟨d, member, place⟩))
  obtain ⟨s', y', rfl, hs, hy⟩ := hr.infix_of_visible distinct.2.1 own some'
  exact ⟨x', s', y', rfl, hx, hs, hy⟩

theorem nil_right (h : Veils gs []) : gs = [] := by
  by_contra some
  exact h.ne_nil some rfl

theorem split_right (h : Veils gs out) (cut : out = x ++ g :: y) (clear : g ∉ veil) :
    ∃ x₀ y₀, gs = x₀ ++ g :: y₀ ∧ Veils x₀ x ∧ Veils y₀ y := by
  induction h generalizing x with
  | nil => simp at cut
  | @keep d gs out h ih =>
    cases x with
    | nil =>
      cases cut
      exact ⟨[], gs, rfl, nil, h⟩
    | cons e x =>
      cases cut
      obtain ⟨x₀, y₀, rfl, hx, hy⟩ := ih rfl
      exact ⟨d :: x₀, y₀, rfl, keep d hx, hy⟩
  | @hide s gs out some h ih =>
    obtain ⟨x₁, rfl, rfl⟩ : ∃ x₁, x = veil ++ x₁ ∧ out = x₁ ++ g :: y := by
      refine cut_right cut (Nat.le_of_not_lt fun inside => clear ?_)
      obtain ⟨d, masks, -⟩ := cut_left cut inside
      simp [masks]
    obtain ⟨x₀, y₀, rfl, hx, hy⟩ := ih rfl
    exact ⟨s ++ x₀, y₀, by simp, hide some hx, hy⟩

/-- A stretch without the mask was a stretch before, at the front as well as inside. -/
theorem prefix_of_clear (h : Veils gs (w ++ y)) (clear : ∀ g ∈ w, g ∉ veil) : ∃ y₀, gs = w ++ y₀ ∧ Veils y₀ y := by
  induction w generalizing gs with
  | nil => exact ⟨gs, rfl, h⟩
  | cons g w ih =>
    obtain ⟨x₀, y₀, rfl, hx, hy⟩ := h.split_right (x := []) rfl (clear g List.mem_cons_self)
    obtain rfl := hx.nil_right
    obtain ⟨y₁, rfl, hy₁⟩ := ih hy fun d member => clear d (List.mem_cons_of_mem _ member)
    exact ⟨y₁, rfl, hy₁⟩

theorem infix_of_clear (h : Veils gs (x ++ (w ++ y))) (clear : ∀ g ∈ w, g ∉ veil) (some : w ≠ []) :
    ∃ x₀ y₀, gs = x₀ ++ (w ++ y₀) ∧ Veils x₀ x ∧ Veils y₀ y := by
  obtain ⟨g, w, rfl⟩ := List.exists_cons_of_ne_nil some
  obtain ⟨x₀, y₀, rfl, hx, hy⟩ := h.split_right rfl (clear g List.mem_cons_self)
  obtain ⟨y₁, rfl, hy₁⟩ := hy.prefix_of_clear fun d member => clear d (List.mem_cons_of_mem _ member)
  exact ⟨x₀, y₁, rfl, hx, hy₁⟩

end Veils

namespace CredentialPattern

open Glyph

/-- `maskFrom` on characters that carry their places. -/
def traceFrom (p : CredentialPattern) (skip : Nat) (previous : Option Char) : List Glyph → List Glyph
  | [] => []
  | g :: gs =>
    match skip with
    | skip + 1 => p.traceFrom skip (some g.char) gs
    | 0 =>
      match p.matchAt? previous (chars (g :: gs)) with
      | some m =>
        (g :: gs).take m.before ++ veil ++ ((g :: gs).drop (m.before + m.secret)).take m.after ++
          p.traceFrom (m.length - 1) (some g.char) gs
      | none => g :: p.traceFrom 0 (some g.char) gs

def trace (p : CredentialPattern) (gs : List Glyph) : List Glyph := p.traceFrom 0 none gs

/-- The matches that are masked, with the places where they start; the text starts at `n`. -/
def hitsFrom (p : CredentialPattern) (n skip : Nat) (previous : Option Char) : List Char → List (Nat × Match)
  | [] => []
  | c :: cs =>
    match skip with
    | skip + 1 => p.hitsFrom (n + 1) skip (some c) cs
    | 0 =>
      match p.matchAt? previous (c :: cs) with
      | some m => (n, m) :: p.hitsFrom (n + 1) (m.length - 1) (some c) cs
      | none => p.hitsFrom (n + 1) 0 (some c) cs

def hits (p : CredentialPattern) (cs : List Char) : List (Nat × Match) := p.hitsFrom 0 0 none cs

/-- A pattern whose secrets are never empty. -/
def HasSecret (p : CredentialPattern) : Prop :=
  ∀ previous b s a rest, p.Matches previous b s a rest → s ≠ []

variable {p : CredentialPattern} {previous : Option Char} {n : Nat}

theorem chars_traceFrom (p : CredentialPattern) (skip : Nat) (previous : Option Char) (gs : List Glyph) :
    chars (p.traceFrom skip previous gs) = p.maskFrom skip previous (chars gs) := by
  induction gs generalizing skip previous with
  | nil => rfl
  | cons g gs ih =>
    cases skip with
    | succ skip => exact ih skip (some g.char)
    | zero =>
      rw [traceFrom, chars_cons, maskFrom, ← chars_cons]
      cases p.matchAt? previous (chars (g :: gs)) with
      | none => rw [chars_cons, ih]
      | some m =>
        simp only [chars_append, ih, masked, chars_veil]
        simp only [chars, List.map_take, List.map_drop]

theorem chars_trace (p : CredentialPattern) (gs : List Glyph) : chars (p.trace gs) = p.maskText (chars gs) :=
  p.chars_traceFrom 0 none gs

theorem traceFrom_skip (p : CredentialPattern) (previous : Option Char) (w gs : List Glyph) :
    p.traceFrom w.length previous (w ++ gs) = p.traceFrom 0 (Piece.lastOf previous (chars w)) gs := by
  induction w generalizing previous with
  | nil => rfl
  | cons g w ih =>
    rw [chars_cons, Piece.lastOf_cons, ← ih]
    rfl

theorem hitsFrom_skip (p : CredentialPattern) (n : Nat) (previous : Option Char) (w cs : List Char) :
    p.hitsFrom n w.length previous (w ++ cs) = p.hitsFrom (n + w.length) 0 (Piece.lastOf previous w) cs := by
  induction w generalizing n previous with
  | nil => rfl
  | cons c w ih =>
    rw [Piece.lastOf_cons, List.length_cons, ← Nat.add_assoc, Nat.add_right_comm, ← ih]
    rfl

theorem exists_glyphs_of_match {gs : List Glyph} {m : Match} (h : p.matchAt? previous (chars gs) = some m) :
    ∃ b s a rest, gs = b ++ (s ++ (a ++ rest)) ∧
      p.Matches previous (chars b) (chars s) (chars a) (chars rest) ∧ m = ⟨b.length, s.length, a.length⟩ := by
  obtain ⟨b, s, a, rest, split, matches', rfl⟩ := exists_matches h
  obtain ⟨b, r₁, rfl, rfl, split₁⟩ := exists_of_chars_append split
  obtain ⟨s, r₂, rfl, rfl, split₂⟩ := exists_of_chars_append split₁
  obtain ⟨a, rest, rfl, rfl, rfl⟩ := exists_of_chars_append split₂
  exact ⟨b, s, a, rest, rfl, matches', by simp⟩

theorem traceFrom_match {b s a rest : List Glyph} (some : s ≠ [])
    (h : p.Matches previous (chars b) (chars s) (chars a) (chars rest)) :
    p.traceFrom 0 previous (b ++ (s ++ (a ++ rest))) =
      b ++ (veil ++ (a ++ p.traceFrom 0 (Piece.lastOf previous (chars (b ++ (s ++ a)))) rest)) := by
  have found := h.matchAt?
  have after := p.traceFrom_skip previous (b ++ (s ++ a)) rest
  have first : b ++ (s ++ (a ++ rest)) ≠ [] := by simp [some]
  have long : 0 < s.length := List.length_pos_iff.mpr some
  simp only [← chars_append, List.append_assoc, length_chars] at found after
  rw [← after]
  generalize whole : b ++ (s ++ (a ++ rest)) = gs at *
  cases gs with
  | nil => exact absurd rfl first
  | cons g gs =>
    obtain ⟨k, length⟩ : ∃ k, b.length + s.length + a.length = k + 1 := ⟨b.length + s.length + a.length - 1, by omega⟩
    have total : (b ++ (s ++ a)).length = k + 1 := by simp; omega
    rw [traceFrom, found, total, traceFrom]
    simp only [Match.length, length, Nat.add_sub_cancel]
    rw [← whole, List.take_left' rfl, ← List.length_append, ← List.append_assoc b, List.drop_left' rfl,
      List.take_left' rfl]
    simp only [List.append_assoc]

theorem hitsFrom_match {b s a rest : List Char} (some : s ≠ []) (h : p.Matches previous b s a rest) :
    p.hitsFrom n 0 previous (b ++ (s ++ (a ++ rest))) =
      (n, ⟨b.length, s.length, a.length⟩) ::
        p.hitsFrom (n + (b ++ (s ++ a)).length) 0 (Piece.lastOf previous (b ++ (s ++ a))) rest := by
  have found := h.matchAt?
  have after := p.hitsFrom_skip n previous (b ++ (s ++ a)) rest
  have first : b ++ (s ++ (a ++ rest)) ≠ [] := by simp [some]
  have long : 0 < s.length := List.length_pos_iff.mpr some
  simp only [List.append_assoc] at after
  rw [← after]
  generalize whole : b ++ (s ++ (a ++ rest)) = cs at *
  cases cs with
  | nil => exact absurd rfl first
  | cons c cs =>
    obtain ⟨k, length⟩ : ∃ k, b.length + s.length + a.length = k + 1 := ⟨b.length + s.length + a.length - 1, by omega⟩
    have total : (b ++ (s ++ a)).length = k + 1 := by simp; omega
    rw [hitsFrom, found, total, hitsFrom]
    simp only [Match.length, length, Nat.add_sub_cancel]

/-- A run of a pattern over a text, with its matches and what it leaves. -/
inductive Passes (p : CredentialPattern) :
    Nat → Option Char → List Glyph → List (Nat × Match) → List Glyph → Prop
  | nil {n : Nat} {previous : Option Char} : Passes p n previous [] [] []
  | keep {n : Nat} {previous : Option Char} {g : Glyph} {gs out : List Glyph} {hs : List (Nat × Match)} :
      p.matchAt? previous (chars (g :: gs)) = none → Passes p (n + 1) (some g.char) gs hs out →
      Passes p n previous (g :: gs) hs (g :: out)
  | hide {n : Nat} {previous : Option Char} {b s a rest out : List Glyph} {hs : List (Nat × Match)} :
      p.Matches previous (chars b) (chars s) (chars a) (chars rest) → s ≠ [] →
      Passes p (n + (b ++ (s ++ a)).length) (Piece.lastOf previous (chars (b ++ (s ++ a)))) rest hs out →
      Passes p n previous (b ++ (s ++ (a ++ rest))) ((n, ⟨b.length, s.length, a.length⟩) :: hs)
        (b ++ (veil ++ (a ++ out)))

theorem passes (secret : p.HasSecret) (n : Nat) (previous : Option Char) (gs : List Glyph) :
    p.Passes n previous gs (p.hitsFrom n 0 previous (chars gs)) (p.traceFrom 0 previous gs) := by
  induction size : gs.length using Nat.strong_induction_on generalizing n previous gs with
  | _ size ih =>
    subst size
    cases gs with
    | nil => exact .nil
    | cons g gs =>
      cases found : p.matchAt? previous (chars (g :: gs)) with
      | none =>
        have step := ih gs.length (by simp) (n + 1) (some g.char) gs rfl
        simp only [chars_cons, hitsFrom, traceFrom] at found ⊢
        simp only [found]
        exact .keep found step
      | some m =>
        obtain ⟨b, s, a, rest, split, matches', rfl⟩ := exists_glyphs_of_match found
        have some : s ≠ [] := by
          intro empty
          exact secret _ _ _ _ _ matches' (by rw [empty]; rfl)
        have step := ih rest.length ?_ (n + (b ++ (s ++ a)).length) (Piece.lastOf previous (chars (b ++ (s ++ a)))) rest rfl
        · rw [split, traceFrom_match some matches']
          simp only [chars_append]
          rw [hitsFrom_match (by simpa [chars] using some) matches']
          simp only [length_chars]
          exact .hide matches' some (by simpa using step)
        · rw [split]
          have long : 0 < s.length := List.length_pos_iff.mpr some
          simp only [List.length_append]
          omega

/-- A match at `b`, `s` and `a` between `x` and `y` of which the secret is masked. -/
structure Masked (p : CredentialPattern) (previous : Option Char) (gs out x b s a y : List Glyph) : Prop where
  text : gs = x ++ (b ++ (s ++ (a ++ y)))
  shape : p.Matches (Piece.lastOf previous (chars x)) (chars b) (chars s) (chars a) (chars y)
  left : ∃ x' y', out = x' ++ (b ++ (veil ++ (a ++ y'))) ∧ Veils x x' ∧ Veils y y'

variable {gs out w w' x y b s a : List Glyph} {hs : List (Nat × Match)}

theorem Masked.extend (h : p.Masked (Piece.lastOf previous (chars w)) gs out x b s a y) (kept : Veils w w') :
    p.Masked previous (w ++ gs) (w' ++ out) (w ++ x) b s a y where
  text := by rw [h.text, List.append_assoc]
  shape := by
    rw [chars_append, Piece.lastOf_append]
    exact h.shape
  left := by
    obtain ⟨x', y', rfl, hx, hy⟩ := h.left
    exact ⟨w' ++ x', y', by rw [List.append_assoc], kept.append hx, hy⟩

/-- What is masked in the rest of a text after a match is masked in the whole of it. -/
theorem Masked.extend_match {b₀ s₀ a₀ : List Glyph}
    (h : p.Masked (Piece.lastOf previous (chars (b₀ ++ (s₀ ++ a₀)))) gs out x b s a y) (some : s₀ ≠ []) :
    p.Masked previous (b₀ ++ (s₀ ++ (a₀ ++ gs))) (b₀ ++ (veil ++ (a₀ ++ out))) (b₀ ++ (s₀ ++ a₀) ++ x) b s a y := by
  have kept : Veils (b₀ ++ (s₀ ++ a₀)) (b₀ ++ (veil ++ a₀)) := (Veils.refl b₀).append (.hide some (.refl a₀))
  have whole := h.extend kept
  simpa only [List.append_assoc] using whole

theorem Masked.hidden (h : p.Masked previous gs out x b s a y) (distinct : (places gs).Nodup) :
    ∀ i ∈ places s, i ∉ places out := by
  obtain ⟨x', y', rfl, hx, hy⟩ := h.left
  rw [h.text] at distinct
  simp only [places_append, List.nodup_append, List.mem_append, places_veil, List.nil_append] at distinct ⊢
  intro i secret seen
  have left := hx.sublist.subset (a := i)
  have right := hy.sublist.subset (a := i)
  grind

/-- What starts inside a masked match starts in the words before its secret, in the secret or after it. -/
theorem Masked.within {g : Glyph} {r : List Glyph} (h : p.Masked previous gs out x b s a y)
    (cut : gs = w ++ g :: r) (before : x.length < w.length) (inside : w.length < (x ++ (b ++ (s ++ a))).length) :
    (∃ c d, c ≠ [] ∧ b = c ++ g :: d ∧ r = d ++ (s ++ (a ++ y))) ∨ g ∈ s ∨ g ∈ a := by
  rw [h.text] at cut
  obtain ⟨c, rfl, cut₁⟩ := cut_right cut before.le
  have some : c ≠ [] := by
    rintro rfl
    simp at before
  rcases Nat.lt_or_ge c.length b.length with first | later
  · obtain ⟨d, split, rest⟩ := cut_left cut₁ first
    exact .inl ⟨c, d, some, split, rest⟩
  · obtain ⟨c, rfl, cut₂⟩ := cut_right cut₁ later
    rw [← List.append_assoc] at cut₂
    simp only [List.length_append] at inside
    obtain ⟨d, split, -⟩ := cut_left cut₂ (by simp only [List.length_append]; omega)
    exact .inr (List.mem_append.mp (by simp [split]))

namespace Passes

theorem veils (h : p.Passes n previous gs hs out) : Veils gs out := by
  induction h with
  | nil => exact .nil
  | keep _ _ ih => exact .keep _ ih
  | hide _ some _ ih => exact (Veils.refl _).append (.hide some ((Veils.refl _).append ih))

theorem exists_of_mem {k : Nat} {m : Match} (h : p.Passes n previous gs hs out) (hit : (k, m) ∈ hs) :
    ∃ x b s a y, p.Masked previous gs out x b s a y ∧ k = n + x.length ∧ m = ⟨b.length, s.length, a.length⟩ := by
  induction h with
  | nil => cases hit
  | @keep n previous g gs out hs _ h ih =>
    obtain ⟨x, b, s, a, y, masked, start, length⟩ := ih hit
    exact ⟨g :: x, b, s, a, y, masked.extend (.refl [g]), by rw [start, List.length_cons]; omega, length⟩
  | @hide n previous b s a rest out hs shape some h ih =>
    cases hit with
    | head =>
      exact ⟨[], b, s, a, rest, ⟨rfl, shape, [], out, rfl, .nil, h.veils⟩, rfl, rfl⟩
    | tail _ hit =>
      obtain ⟨x, b₁, s₁, a₁, y, masked, start, length⟩ := ih hit
      refine ⟨_, b₁, s₁, a₁, y, masked.extend_match some, ?_, length⟩
      rw [start, Nat.add_assoc, ← List.length_append]

theorem exists_of_hidden {i : Nat} (h : p.Passes n previous gs hs out) (there : i ∈ places gs)
    (gone : i ∉ places out) : ∃ x b s a y, p.Masked previous gs out x b s a y ∧ i ∈ places s := by
  induction h with
  | nil => cases there
  | @keep n previous g gs out hs _ h ih =>
    rw [places_cons, List.mem_append] at there gone
    have later := there.resolve_left fun first => gone (.inl first)
    obtain ⟨x, b, s, a, y, masked, inside⟩ := ih later fun seen => gone (.inr seen)
    exact ⟨g :: x, b, s, a, y, masked.extend (.refl [g]), inside⟩
  | @hide n previous b s a rest out hs shape some h ih =>
    by_cases inside : i ∈ places s
    · exact ⟨[], b, s, a, rest, ⟨rfl, shape, [], out, rfl, .nil, h.veils⟩, inside⟩
    · simp only [places_append, List.mem_append] at there gone
      have later : i ∈ places rest := by grind
      obtain ⟨x, b₁, s₁, a₁, y, masked, inside⟩ := ih later (by grind)
      exact ⟨_, b₁, s₁, a₁, y, masked.extend_match some, inside⟩

/-- A match is masked, or it starts inside one that is. -/
theorem masked_or_within (h : p.Passes n previous gs hs out) (cut : gs = x ++ (b ++ (s ++ (a ++ y))))
    (shape : p.Matches (Piece.lastOf previous (chars x)) (chars b) (chars s) (chars a) (chars y)) (some : s ≠ []) :
    p.Masked previous gs out x b s a y ∨ ∃ x₁ b₁ s₁ a₁ y₁, p.Masked previous gs out x₁ b₁ s₁ a₁ y₁ ∧
      x₁.length < x.length ∧ x.length < (x₁ ++ (b₁ ++ (s₁ ++ a₁))).length := by
  induction h generalizing x with
  | nil => simp [some] at cut
  | @keep n previous g gs out hs none h ih =>
    cases x with
    | nil =>
      have found := shape.matchAt?
      simp only [← chars_append] at found
      rw [cut, List.nil_append] at none
      exact absurd (none.symm.trans found) (by simp)
    | cons d x =>
      cases cut
      rw [chars_cons, Piece.lastOf_cons] at shape
      obtain masked | ⟨x₁, b₁, s₁, a₁, y₁, masked, before, inside⟩ := ih rfl shape
      · exact .inl (masked.extend (.refl [g]))
      · refine .inr ⟨g :: x₁, b₁, s₁, a₁, y₁, masked.extend (.refl [g]), ?_, ?_⟩
        · simpa using before
        · simpa using inside
  | @hide n previous b₀ s₀ a₀ rest out hs shape₀ some₀ h ih =>
    have first : p.Masked previous (b₀ ++ (s₀ ++ (a₀ ++ rest))) (b₀ ++ (veil ++ (a₀ ++ out))) [] b₀ s₀ a₀ rest :=
      ⟨rfl, shape₀, [], out, rfl, .nil, h.veils⟩
    -- It starts where the first match does and is that match, or inside it, or after it.
    rcases Nat.lt_or_ge x.length (b₀ ++ (s₀ ++ a₀)).length with inside | after
    · cases x with
      | nil =>
        have found := shape.matchAt?
        have found₀ := shape₀.matchAt?
        simp only [← chars_append] at found found₀
        rw [cut] at found₀
        have same := Option.some.inj (found.symm.trans found₀)
        simp only [length_chars, Match.mk.injEq] at same
        rw [List.nil_append] at cut
        obtain ⟨rfl, cut₁⟩ := List.append_inj cut same.1.symm
        obtain ⟨rfl, cut₂⟩ := List.append_inj cut₁ same.2.1.symm
        obtain ⟨rfl, rfl⟩ := List.append_inj cut₂ same.2.2.symm
        exact .inl first
      | cons d x => exact .inr ⟨[], b₀, s₀, a₀, rest, first, by simp, inside⟩
    · obtain ⟨x₂, rfl, rfl⟩ : ∃ x₂, x = b₀ ++ (s₀ ++ a₀) ++ x₂ ∧ rest = x₂ ++ (b ++ (s ++ (a ++ y))) := by
        have cut : b₀ ++ (s₀ ++ a₀) ++ rest = x ++ (b ++ (s ++ (a ++ y))) := by simpa using cut
        obtain ⟨g, r, first⟩ := List.exists_cons_of_ne_nil (show b ++ (s ++ (a ++ y)) ≠ [] by simp [some])
        rw [first] at cut ⊢
        exact cut_right cut after
      rw [chars_append, Piece.lastOf_append] at shape
      obtain masked | ⟨x₁, b₁, s₁, a₁, y₁, masked, before, inside⟩ := ih rfl shape
      · exact .inl (masked.extend_match some₀)
      · refine .inr ⟨_, b₁, s₁, a₁, y₁, masked.extend_match some₀, ?_, ?_⟩
        · simpa using before
        · simp only [List.length_append] at inside ⊢
          omega

/-- A star of a mask that nothing of the mask stands before is the first one, right after what announces a secret. -/
theorem exists_of_veil {w r : List Glyph} {g : Glyph} (run : p.Passes n previous gs hs out)
    (placed : ∀ g ∈ gs, ∃ i, g.place = some i) (cut : out = w ++ g :: r) (masks : g ∈ veil)
    (first : ∀ d ∈ w.getLast?, d ∉ veil) :
    ∃ x b s a y rest previous, w = x ++ b ∧ g :: r = veil ++ (a ++ y) ∧
      p.Matches previous (chars b) (chars s) (chars a) (chars rest) ∧
      ∃ n previous hs, p.Passes n previous rest hs y := by
  have clear : ¬ ∃ i, g.place = some i := by
    rw [eq_of_mem_veil masks]
    simp
  induction run generalizing w with
  | nil => simp at cut
  | @keep n previous d gs out hs _ run ih =>
    rw [List.forall_mem_cons] at placed
    cases w with
    | nil =>
      cases cut
      exact absurd placed.1 clear
    | cons e w =>
      cases cut
      obtain ⟨x, b, s, a, y, rest, previous, rfl, others⟩ := ih placed.2 rfl fun d last => first d (by
        rw [List.getLast?_cons, last]
        rfl)
      exact ⟨d :: x, b, s, a, y, rest, previous, rfl, others⟩
  | @hide n previous b s a rest out hs shape _ run ih =>
    -- Only a star of the mask has no place, so the star is one of this mask or lies in the rest.
    simp only [List.forall_mem_append] at placed
    obtain ⟨placedBefore, -, placedAfter, placedRest⟩ := placed
    rcases Nat.lt_or_ge w.length b.length with inside | past
    · obtain ⟨d, rfl, -⟩ := cut_left cut inside
      exact absurd (placedBefore g (by simp)) clear
    obtain ⟨e, rfl, cut₁⟩ := cut_right cut past
    rcases Nat.lt_or_ge e.length veil.length with inVeil | pastVeil
    · obtain ⟨d, stars, -⟩ := cut_left cut₁ inVeil
      obtain rfl | ⟨e, f, rfl⟩ := List.eq_nil_or_concat e
      · exact ⟨[], b, s, a, out, rest, previous, by simp, cut₁.symm, shape, _, _, _, run⟩
      · exact absurd (by simp [stars]) (first f (by simp))
    · obtain ⟨e, rfl, cut₂⟩ := cut_right cut₁ pastVeil
      rcases Nat.lt_or_ge e.length a.length with inAfter | pastAfter
      · obtain ⟨d, rfl, -⟩ := cut_left cut₂ inAfter
        exact absurd (placedAfter g (by simp)) clear
      · obtain ⟨w, rfl, cut₃⟩ := cut_right cut₂ pastAfter
        obtain ⟨x, b', s', a', y, rest', previous, rfl, others⟩ := ih placedRest cut₃ fun d last => first d (by
          rw [← List.append_assoc, ← List.append_assoc, List.getLast?_append, last]
          rfl)
        exact ⟨b ++ (veil ++ (a ++ x)), b', s', a', y, rest', previous, by simp, others⟩

end Passes

theorem passes_trace (secret : p.HasSecret) (gs : List Glyph) :
    p.Passes 0 none gs (p.hits (chars gs)) (p.trace gs) :=
  passes secret 0 none gs

/-- What a pattern masks in a text, and that none of it is seen. -/
theorem exists_of_mem_hits {cs : List Char} {k : Nat} {m : Match} (secret : p.HasSecret) (hit : (k, m) ∈ p.hits cs) :
    ∃ x b s a y, cs = x ++ (b ++ (s ++ (a ++ y))) ∧ p.Matches (Piece.lastOf none x) b s a y ∧
      k = x.length ∧ m = ⟨b.length, s.length, a.length⟩ ∧
      Hides (p.trace (label 0 cs)) (x.length + b.length) (x.length + b.length + s.length) := by
  have run := passes_trace secret (label 0 cs)
  rw [chars_label] at run
  obtain ⟨x, b, s, a, y, masked, start, length⟩ := run.exists_of_mem hit
  obtain ⟨-, others⟩ := label_eq_append masked.text
  obtain ⟨-, others₁⟩ := label_eq_append others.symm
  obtain ⟨secrets, -⟩ := label_eq_append others₁.symm
  refine ⟨chars x, chars b, chars s, chars a, chars y, ?_, masked.shape, by simpa using start, by simpa using length, ?_⟩
  · have text := congrArg chars masked.text
    simpa using text
  · intro i low high
    refine masked.hidden (nodup_label 0 cs) i ?_
    rw [secrets, mem_places_label]
    simp only [length_chars] at low high ⊢
    omega

end CredentialPattern

end KeywordSuite
