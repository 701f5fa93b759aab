import KeywordSuite.Sanitizer.Basic
import Mathlib.Data.List.TakeWhile

/-!
# What the pieces of a pattern take

A piece, a sequence of pieces and a whole pattern are described by the texts they take, with what
follows left open where it does not matter.
-/

namespace KeywordSuite

namespace Piece

variable {previous : Option Char} {cs w rest : List Char} {n : Nat}

theorem lastOf_cons (previous : Option Char) (c : Char) (cs : List Char) :
    lastOf previous (c :: cs) = lastOf (some c) cs := by
  cases cs with
  | nil => rfl
  | cons d cs => simp [lastOf, List.getLast?_cons]

theorem lastOf_eq {previous previous' : Option Char} {cs : List Char} (some : cs ≠ []) :
    lastOf previous cs = lastOf previous' cs := by
  cases cs with
  | nil => exact absurd rfl some
  | cons c cs => rw [lastOf_cons, lastOf_cons]

theorem lastOf_append (previous : Option Char) (cs ds : List Char) :
    lastOf previous (cs ++ ds) = lastOf (lastOf previous cs) ds := by
  simp [lastOf, List.getLast?_append, Option.or_assoc]

theorem dropWord_eq_some {word : List Char} :
    dropWord word cs = some rest ↔ ∃ u, cs = u ++ rest ∧ u.map foldChar = word := by
  induction word generalizing cs with
  | nil => simp [dropWord, eq_comm]
  | cons letter word ih =>
    cases cs with
    | nil => simp [dropWord]
    | cons c cs =>
      by_cases same : sameLetter c letter = true
      · rw [dropWord, if_pos same, ih]
        rw [sameLetter, decide_eq_true_eq] at same
        constructor
        · rintro ⟨u, rfl, rfl⟩
          exact ⟨c :: u, rfl, by simp [same]⟩
        · rintro ⟨u, split, folded⟩
          cases u with
          | nil => cases folded
          | cons d u =>
            cases split
            exact ⟨u, rfl, (List.cons.inj folded).2⟩
      · rw [dropWord, if_neg same]
        rw [sameLetter, decide_eq_true_eq] at same
        constructor
        · intro h
          cases h
        · rintro ⟨u, split, folded⟩
          cases u with
          | nil => cases folded
          | cons d u =>
            cases split
            exact absurd (List.cons.inj folded).1 same

theorem dropExactly_eq_some {text : List Char} :
    dropExactly text cs = some rest ↔ cs = text ++ rest := by
  induction text generalizing cs with
  | nil => simp [dropExactly, eq_comm]
  | cons d text ih =>
    cases cs with
    | nil => simp [dropExactly]
    | cons c cs =>
      by_cases same : c = d
      · simp [dropExactly, same, ih]
      · simp [dropExactly, same]

theorem countRun_le (allowed : Char → Bool) (most : Option Nat) (cs : List Char) :
    countRun allowed most cs ≤ cs.length := by
  have bound : (cs.takeWhile allowed).length ≤ cs.length := (List.takeWhile_prefix _).length_le
  cases most with
  | none => exact bound
  | some limit => exact (Nat.min_le_left ..).trans bound

theorem take?_le {p : Piece} (h : p.take? previous cs = some n) : n ≤ cs.length := by
  cases p with
  | edge =>
    simp only [take?, Option.ite_none_right_eq_some, Option.some.injEq] at h
    omega
  | anyWord words =>
    obtain ⟨word, -, found⟩ := List.exists_of_findSome?_eq_some h
    obtain ⟨rest, dropped, rfl⟩ := Option.map_eq_some_iff.mp found
    obtain ⟨u, rfl, rfl⟩ := dropWord_eq_some.mp dropped
    simp
  | exactly text =>
    obtain ⟨rest, dropped, rfl⟩ := Option.map_eq_some_iff.mp h
    rw [dropExactly_eq_some.mp dropped]
    simp
  | run allowed least most =>
    simp only [take?, Option.ite_none_right_eq_some, Option.some.injEq] at h
    rw [← h.2]
    exact countRun_le allowed most cs

/-- Whether a piece takes exactly `w` where `rest` follows. -/
def Takes (p : Piece) (previous : Option Char) (w rest : List Char) : Prop :=
  p.take? previous (w ++ rest) = some w.length

def TakesAll (ps : List Piece) (previous : Option Char) (w rest : List Char) : Prop :=
  takeAll? previous (w ++ rest) ps = some w.length

theorem takes_edge : Takes .edge previous w rest ↔ w = [] ∧ atEdge previous rest = true := by
  simp only [Takes, take?, Option.ite_none_right_eq_some, Option.some.injEq]
  constructor
  · rintro ⟨edge, empty⟩
    obtain rfl := List.eq_nil_of_length_eq_zero empty.symm
    exact ⟨rfl, edge⟩
  · rintro ⟨rfl, edge⟩
    exact ⟨edge, rfl⟩

theorem takes_exactly {text : List Char} : Takes (.exactly text) previous w rest ↔ w = text := by
  simp only [Takes, take?, Option.map_eq_some_iff, dropExactly_eq_some]
  constructor
  · rintro ⟨after, split, length⟩
    exact List.append_inj_left split length.symm
  · rintro rfl
    exact ⟨rest, rfl, rfl⟩

theorem takes_anyWord {words : List (List Char)} (h : Takes (.anyWord words) previous w rest) :
    w.map foldChar ∈ words := by
  obtain ⟨word, member, found⟩ := List.exists_of_findSome?_eq_some h
  obtain ⟨after, dropped, length⟩ := Option.map_eq_some_iff.mp found
  obtain ⟨u, split, rfl⟩ := dropWord_eq_some.mp dropped
  rw [List.length_map] at length
  obtain rfl := List.append_inj_left split length.symm
  exact member

theorem takes_word {word : List Char} :
    Takes (.anyWord [word]) previous w rest ↔ w.map foldChar = word := by
  constructor
  · intro h
    exact List.mem_singleton.mp (takes_anyWord h)
  · rintro rfl
    have dropped : dropWord (w.map foldChar) (w ++ rest) = some rest := dropWord_eq_some.mpr ⟨w, rfl, rfl⟩
    simp [Takes, take?, dropped]

theorem takes_run_iff {allowed : Char → Bool} {least : Nat} {most : Option Nat} :
    Takes (.run allowed least most) previous w rest ↔
      least ≤ w.length ∧ countRun allowed most (w ++ rest) = w.length := by
  simp only [Takes, take?, Option.ite_none_right_eq_some, Option.some.injEq]
  constructor
  · rintro ⟨enough, length⟩
    exact ⟨length ▸ enough, length⟩
  · rintro ⟨enough, length⟩
    exact ⟨length ▸ enough, length⟩

theorem takes_run {allowed : Char → Bool} {least : Nat} :
    Takes (.run allowed least none) previous w rest ↔
      least ≤ w.length ∧ (∀ c ∈ w, allowed c = true) ∧ ∀ c ∈ rest.head?, allowed c = false := by
  simp only [takes_run_iff, countRun]
  constructor
  · rintro ⟨enough, length⟩
    have run : (w ++ rest).takeWhile allowed = w :=
      List.append_inj_left List.takeWhile_append_dropWhile length
    have all : ∀ c ∈ w, allowed c = true := fun c member => List.mem_takeWhile_imp (run ▸ member)
    refine ⟨enough, all, fun c first => ?_⟩
    rw [List.takeWhile_append_of_pos all] at run
    cases rest with
    | nil => cases first
    | cons d rest =>
      cases first
      rw [← Bool.not_eq_true]
      intro allows
      rw [List.takeWhile_cons_of_pos allows] at run
      exact absurd (List.append_right_eq_self.mp run) (List.cons_ne_nil _ _)
  · rintro ⟨enough, all, stops⟩
    have run : (w ++ rest).takeWhile allowed = w := by
      rw [List.takeWhile_append_of_pos all]
      cases rest with
      | nil => simp
      | cons d rest =>
        rw [List.takeWhile_cons_of_neg (by simp [stops d rfl]), List.append_nil]
    rw [run]
    exact ⟨enough, rfl⟩

theorem takes_one {allowed : Char → Bool} :
    Takes (.run allowed 1 (some 1)) previous w rest ↔ ∃ c, w = [c] ∧ allowed c = true := by
  simp only [takes_run_iff, countRun]
  constructor
  · rintro ⟨some, length⟩
    have one : w.length = 1 := by omega
    obtain ⟨c, rfl⟩ := List.length_eq_one_iff.mp one
    refine ⟨c, rfl, ?_⟩
    rw [← Bool.not_eq_false]
    intro refuses
    simp [refuses] at length
  · rintro ⟨c, rfl, allows⟩
    simp [allows]

theorem takesAll_nil : TakesAll [] previous w rest ↔ w = [] := by
  simp [TakesAll, takeAll?, eq_comm]

theorem takesAll_cons {p : Piece} {ps : List Piece} :
    TakesAll (p :: ps) previous w rest ↔
      ∃ u v, w = u ++ v ∧ p.Takes previous u (v ++ rest) ∧ TakesAll ps (lastOf previous u) v rest := by
  rw [TakesAll, takeAll?]
  constructor
  · intro h
    cases taken : p.take? previous (w ++ rest) with
    | none => simp [taken] at h
    | some k =>
      simp only [taken, Option.map_eq_some_iff] at h
      obtain ⟨m, others, sum⟩ := h
      have within : k ≤ w.length := by omega
      have cut : (w ++ rest).take k = w.take k := List.take_append_of_le_length within
      have left : (w ++ rest).drop k = w.drop k ++ rest := List.drop_append_of_le_length within
      rw [cut, left] at others
      refine ⟨w.take k, w.drop k, (List.take_append_drop k w).symm, ?_, ?_⟩
      · rw [Takes, ← List.append_assoc, List.take_append_drop, taken, List.length_take, Nat.min_eq_left within]
      · rw [TakesAll, others, List.length_drop, ← sum, Nat.add_sub_cancel_left]
  · rintro ⟨u, v, rfl, first, others⟩
    rw [Takes, ← List.append_assoc] at first
    simp only [first]
    rw [List.append_assoc, List.take_left, List.drop_left, others]
    simp

theorem takeAll?_le {ps : List Piece} : takeAll? previous cs ps = some n → n ≤ cs.length := by
  induction ps generalizing previous cs n with
  | nil =>
    intro h
    rw [← Option.some.inj h]
    exact Nat.zero_le _
  | cons p ps ih =>
    intro h
    rw [takeAll?] at h
    cases taken : p.take? previous cs with
    | none => simp [taken] at h
    | some k =>
      simp only [taken, Option.map_eq_some_iff] at h
      obtain ⟨m, others, rfl⟩ := h
      have first := take?_le taken
      have second := ih others
      rw [List.length_drop] at second
      omega

theorem exists_takesAll {ps : List Piece} (h : takeAll? previous cs ps = some n) :
    ∃ w rest, cs = w ++ rest ∧ w.length = n ∧ TakesAll ps previous w rest := by
  have length : (cs.take n).length = n := by rw [List.length_take, Nat.min_eq_left (takeAll?_le h)]
  refine ⟨cs.take n, cs.drop n, (List.take_append_drop n cs).symm, length, ?_⟩
  rw [TakesAll, List.take_append_drop, h, length]

end Piece

namespace CredentialPattern

/-- Whether a pattern matches `b`, a secret `s` and `a` where `rest` follows. -/
def Matches (p : CredentialPattern) (previous : Option Char) (b s a rest : List Char) : Prop :=
  Piece.TakesAll p.before previous b (s ++ (a ++ rest)) ∧
    Piece.TakesAll p.secret (Piece.lastOf previous b) s (a ++ rest) ∧
    Piece.TakesAll p.after (Piece.lastOf (Piece.lastOf previous b) s) a rest

variable {p : CredentialPattern} {previous : Option Char} {cs : List Char} {m : Match}

theorem Matches.matchAt? {b s a rest : List Char} (h : p.Matches previous b s a rest) :
    p.matchAt? previous (b ++ (s ++ (a ++ rest))) = some ⟨b.length, s.length, a.length⟩ := by
  obtain ⟨before, secret, after⟩ := h
  rw [Piece.TakesAll] at before secret after
  simp [CredentialPattern.matchAt?, before, secret, after]

theorem exists_matches (h : p.matchAt? previous cs = some m) :
    ∃ b s a rest, cs = b ++ (s ++ (a ++ rest)) ∧ p.Matches previous b s a rest ∧
      m = ⟨b.length, s.length, a.length⟩ := by
  simp only [matchAt?, Option.bind_eq_bind, Option.bind_eq_some_iff, Option.pure_def,
    Option.some.injEq] at h
  obtain ⟨k₁, before, k₂, secret, k₃, after, rfl⟩ := h
  obtain ⟨b, rest₁, rfl, rfl, takesBefore⟩ := Piece.exists_takesAll before
  rw [List.take_left, List.drop_left] at secret
  obtain ⟨s, rest₂, rfl, rfl, takesSecret⟩ := Piece.exists_takesAll secret
  rw [List.take_left, List.drop_left, List.take_left, List.drop_left] at after
  obtain ⟨a, rest, rfl, rfl, takesAfter⟩ := Piece.exists_takesAll after
  exact ⟨b, s, a, rest, rfl, ⟨takesBefore, takesSecret, takesAfter⟩, rfl⟩

end CredentialPattern

end KeywordSuite
