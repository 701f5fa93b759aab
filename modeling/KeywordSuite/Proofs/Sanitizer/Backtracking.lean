import KeywordSuite.Proofs.Sanitizer.Keys
import Mathlib.Algebra.GroupWithZero.Nat

/-!
# Patterns searched with backtracking

A search may go back and let a piece take less, or another word, whenever the pieces after it find nothing. Here all
these ways are listed in the order in which they are tried. In the default patterns no piece can begin with what the
run before it takes, so the first way is the one in which every piece takes what it takes at once.
-/

namespace KeywordSuite

namespace Piece

variable {previous : Option Char} {cs : List Char} {p : Piece} {ps : List Piece} {n : Nat}

/-- The numbers of characters a piece may take, in the order in which they are tried. -/
def choices (previous : Option Char) (cs : List Char) : Piece → List Nat
  | .edge => if atEdge previous cs then [0] else []
  | .anyWord words => words.filterMap fun w => (dropWord w cs).map fun _ => w.length
  | .exactly text => ((dropExactly text cs).map fun _ => text.length).toList
  | .run allowed least most => (List.range (countRun allowed most cs + 1)).reverse.filter (least ≤ ·)

/-- What each of some pieces takes, for every way in which all of them match; the last one goes back first. -/
def ways (previous : Option Char) (cs : List Char) : List Piece → List (List Nat)
  | [] => [[]]
  | p :: ps => (p.choices previous cs).flatMap fun n =>
      (ways (lastOf previous (cs.take n)) (cs.drop n) ps).map (n :: ·)

/-- What each of some pieces takes if none goes back. -/
def takeEach? (previous : Option Char) (cs : List Char) : List Piece → Option (List Nat)
  | [] => some []
  | p :: ps => (p.take? previous cs).bind fun n =>
      (takeEach? (lastOf previous (cs.take n)) (cs.drop n) ps).map (n :: ·)

theorem mem_choices_run {allowed : Char → Bool} {least : Nat} {most : Option Nat} :
    n ∈ choices previous cs (.run allowed least most) ↔ n ≤ countRun allowed most cs ∧ least ≤ n := by
  rw [choices, List.mem_filter, List.mem_reverse, List.mem_range, Nat.lt_succ_iff, decide_eq_true_iff]

theorem head?_choices_run {allowed : Char → Bool} {least : Nat} {most : Option Nat} :
    (choices previous cs (.run allowed least most)).head? =
      if least ≤ countRun allowed most cs then some (countRun allowed most cs) else none := by
  have split : choices previous cs (.run allowed least most) =
      (countRun allowed most cs :: (List.range (countRun allowed most cs)).reverse).filter (least ≤ ·) := by
    simp only [choices, List.range_succ, List.reverse_append, List.reverse_singleton, List.singleton_append]
  rw [split, List.filter_cons]
  by_cases enough : least ≤ countRun allowed most cs
  · rw [if_pos (decide_eq_true enough), if_pos enough]
    rfl
  · have none : (List.range (countRun allowed most cs)).reverse.filter (least ≤ ·) = [] := by
      rw [List.filter_eq_nil_iff]
      intro m member
      simp only [List.mem_reverse, List.mem_range, decide_eq_true_eq] at member ⊢
      omega
    rw [if_neg (by simpa using enough), if_neg enough, none]
    rfl

theorem take?_eq_head? (p : Piece) : p.take? previous cs = (p.choices previous cs).head? := by
  cases p with
  | edge =>
    simp only [take?, choices]
    split <;> rfl
  | anyWord words => simp only [take?, choices, List.head?_filterMap]
  | exactly text =>
    simp only [take?, choices]
    cases dropExactly text cs <;> rfl
  | run allowed least most => exact head?_choices_run.symm

/-! ## Pieces that never need to go back -/

/-- Whether a piece that leaves nothing for the pieces after it leaves nothing in any other way. -/
def Settles (p : Piece) (ps : List Piece) : Prop :=
  ∀ previous cs, ∀ n ∈ (p.choices previous cs).head?, ways (lastOf previous (cs.take n)) (cs.drop n) ps = [] →
    ∀ m ∈ p.choices previous cs, ways (lastOf previous (cs.take m)) (cs.drop m) ps = []

def Steady : List Piece → Prop
  | [] => True
  | p :: ps => Settles p ps ∧ Steady ps

theorem head?_ways (steady : Steady ps) (previous : Option Char) (cs : List Char) :
    (ways previous cs ps).head? = takeEach? previous cs ps := by
  induction ps generalizing previous cs with
  | nil => rfl
  | cons p ps ih =>
    obtain ⟨settles, steady⟩ := steady
    rw [ways, takeEach?, take?_eq_head?]
    cases choices : p.choices previous cs with
    | nil => rfl
    | cons n others =>
      have first : n ∈ (p.choices previous cs).head? := by rw [choices]; rfl
      rw [List.head?_cons, Option.bind_some, ← ih steady, List.flatMap_cons]
      cases here : ways (lastOf previous (cs.take n)) (cs.drop n) ps with
      | cons way more => rfl
      | nil =>
        have none := settles previous cs n first here
        rw [choices] at none
        have empty : (others.flatMap fun n => (ways (lastOf previous (cs.take n)) (cs.drop n) ps).map (n :: ·)) = [] := by
          rw [List.flatMap_eq_nil_iff]
          intro m member
          rw [none m (List.mem_cons_of_mem _ member), List.map_nil]
        rw [empty]
        rfl

/-- Whether some pieces do not match where a character of a class comes first. -/
def Refuse (allowed : Char → Bool) (ps : List Piece) : Prop :=
  ∀ previous c cs, allowed c = true → ways previous (c :: cs) ps = []

section

variable {allowed other : Char → Bool} {least : Nat} {most : Option Nat}

theorem countRun_of_refused {c : Char} (refused : other c = false) : countRun other most (c :: cs) = 0 := by
  unfold countRun
  rw [List.takeWhile_cons_of_neg (by simp [refused])]
  cases most <;> simp

theorem refuse_run (apart : ∀ c, allowed c = true → other c = false) : Refuse allowed (.run other (least + 1) most :: ps) := by
  intro previous c cs allows
  rw [ways, choices, countRun_of_refused (apart c allows)]
  simp

theorem refuse_option (apart : ∀ c, allowed c = true → other c = false) (later : Refuse allowed ps) :
    Refuse allowed (.run other 0 most :: ps) := by
  intro previous c cs allows
  rw [ways, choices, countRun_of_refused (apart c allows)]
  simp [later _ c cs allows]

theorem refuse_exactly {d : Char} {text : List Char} (apart : allowed d = false) :
    Refuse allowed (.exactly (d :: text) :: ps) := by
  intro previous c cs allows
  have differ : c ≠ d := by
    rintro rfl
    rw [apart] at allows
    cases allows
  rw [ways, choices, dropExactly, if_neg differ]
  rfl

theorem settles_of_refuse (refuse : Refuse allowed ps) : Settles (.run allowed least most) ps := by
  intro previous cs n first none m member
  rw [head?_choices_run] at first
  obtain ⟨-, rfl⟩ : least ≤ countRun allowed most cs ∧ countRun allowed most cs = n := by
    split at first
    · exact ⟨‹_›, by simpa using first⟩
    · cases first
  rcases Nat.lt_or_eq_of_le (mem_choices_run.1 member).1 with less | rfl
  · have within : m < (cs.takeWhile allowed).length := by
      have bound : countRun allowed most cs ≤ (cs.takeWhile allowed).length := by
        cases most with
        | none => exact Nat.le_refl _
        | some limit => exact Nat.min_le_left ..
      omega
    have inside : m < cs.length := within.trans_le (List.takeWhile_prefix _).length_le
    rw [List.drop_eq_getElem_cons inside]
    refine refuse _ _ _ ?_
    have same : (cs.takeWhile allowed)[m] = cs[m] := (List.takeWhile_prefix allowed).getElem within
    rw [← same]
    exact List.mem_takeWhile_imp (List.getElem_mem within)
  · exact none

theorem settles_of_ways (always : ∀ previous cs, ways previous cs ps ≠ []) (p : Piece) : Settles p ps :=
  fun _ _ _ _ none => absurd none (always _ _)

theorem ways_option_ne_nil (previous : Option Char) (cs : List Char) : ways previous cs [.run other 0 most] ≠ [] := by
  intro none
  have first : countRun other most cs ∈ choices previous cs (.run other 0 most) :=
    mem_choices_run.2 ⟨Nat.le_refl _, Nat.zero_le _⟩
  exact absurd (List.flatMap_eq_nil_iff.1 none _ first) (by simp [ways])

end

/-- Whether a piece can be taken in one way at most. -/
def Single (p : Piece) : Prop :=
  ∀ previous cs n m, n ∈ p.choices previous cs → m ∈ p.choices previous cs → n = m

theorem settles_of_single (single : Single p) (ps : List Piece) : Settles p ps := by
  intro previous cs n first none m member
  rwa [← single previous cs n m (List.mem_of_mem_head? first) member]

theorem single_edge : Single .edge := by
  intro previous cs n m first second
  simp only [choices] at first second
  split at first <;> simp_all

theorem single_run (allowed : Char → Bool) : Single (.run allowed 1 (some 1)) := by
  intro previous cs n m first second
  rw [mem_choices_run] at first second
  have most : countRun allowed (some 1) cs ≤ 1 := Nat.min_le_right ..
  omega

theorem single_exactly (text : List Char) : Single (.exactly text) := by
  intro previous cs n m first second
  simp only [choices, Option.mem_toList, Option.map_eq_some_iff] at first second
  obtain ⟨-, -, rfl⟩ := first
  obtain ⟨-, -, rfl⟩ := second
  rfl

theorem single_anyWord {words : List (List Char)} (apart : ∀ u ∈ words, ∀ v ∈ words, u <+: v → u = v) :
    Single (.anyWord words) := by
  intro previous cs n m first second
  simp only [choices, List.mem_filterMap, Option.map_eq_some_iff] at first second
  obtain ⟨u, member, _, dropped, rfl⟩ := first
  obtain ⟨v, member', _, dropped', rfl⟩ := second
  obtain ⟨w, split, rfl⟩ := dropWord_eq_some.mp dropped
  obtain ⟨w', split', rfl⟩ := dropWord_eq_some.mp dropped'
  exact congrArg List.length (eq_of_apart apart ⟨_, split.symm⟩ ⟨_, split'.symm⟩ member member')

/-! ## Pieces taken together -/

theorem takeAll?_eq_sum (ps : List Piece) (previous : Option Char) (cs : List Char) :
    takeAll? previous cs ps = (takeEach? previous cs ps).map List.sum := by
  induction ps generalizing previous cs with
  | nil => rfl
  | cons p ps ih =>
    rw [takeAll?, takeEach?]
    cases p.take? previous cs with
    | none => rfl
    | some n =>
      dsimp only
      rw [ih, Option.bind_some, Option.map_map, Option.map_map]
      rfl

theorem length_takeEach? {ps : List Piece} {previous : Option Char} {cs : List Char} {ns : List Nat}
    (h : takeEach? previous cs ps = some ns) : ns.length = ps.length := by
  induction ps generalizing previous cs ns with
  | nil =>
    cases h
    rfl
  | cons p ps ih =>
    obtain ⟨n, -, later⟩ := Option.bind_eq_some_iff.1 h
    obtain ⟨ms, others, rfl⟩ := Option.map_eq_some_iff.1 later
    rw [List.length_cons, List.length_cons, ih others]

theorem takeEach?_append (ps qs : List Piece) (previous : Option Char) (cs : List Char) :
    takeEach? previous cs (ps ++ qs) = (takeEach? previous cs ps).bind fun ns =>
      (takeEach? (lastOf previous (cs.take ns.sum)) (cs.drop ns.sum) qs).map (ns ++ ·) := by
  induction ps generalizing previous cs with
  | nil => simp [takeEach?, lastOf]
  | cons p ps ih =>
    rw [List.cons_append, takeEach?, takeEach?, Option.bind_assoc]
    refine congrArg _ (funext fun n => ?_)
    rw [ih]
    cases takeEach? (lastOf previous (cs.take n)) (cs.drop n) ps with
    | none => rfl
    | some ns =>
      have place : lastOf (lastOf previous (cs.take n)) ((cs.drop n).take ns.sum) = lastOf previous (cs.take (n + ns.sum)) := by
        rw [← lastOf_append, List.take_add]
      simp only [Option.map_some, Option.bind_some, List.sum_cons, Option.map_map, List.drop_drop, place]
      rfl

end Piece

namespace CredentialPattern

variable {p : CredentialPattern}

/-- The match whose pieces take so much each. -/
def measured (p : CredentialPattern) (ns : List Nat) : Match :=
  ⟨(ns.take p.before.length).sum, ((ns.drop p.before.length).take p.secret.length).sum,
    ((ns.drop p.before.length).drop p.secret.length).sum⟩

/-- The first match of a search that goes back wherever it fails. -/
def search? (p : CredentialPattern) (previous : Option Char) (cs : List Char) : Option Match :=
  (Piece.ways previous cs (p.before ++ (p.secret ++ p.after))).head?.map p.measured

theorem search?_eq_matchAt? (steady : Piece.Steady (p.before ++ (p.secret ++ p.after))) (previous : Option Char)
    (cs : List Char) : p.search? previous cs = p.matchAt? previous cs := by
  rw [search?, Piece.head?_ways steady, Piece.takeEach?_append, matchAt?]
  simp only [Piece.takeAll?_eq_sum, Piece.takeEach?_append]
  cases before : Piece.takeEach? previous cs p.before with
  | none => rfl
  | some b =>
    have long := Piece.length_takeEach? before
    simp only [Option.bind_some, Option.map_some, Option.bind_eq_bind]
    generalize Piece.lastOf previous (cs.take b.sum) = previous₁, cs.drop b.sum = cs₁
    cases secret : Piece.takeEach? previous₁ cs₁ p.secret with
    | none => rfl
    | some s =>
      have long₁ := Piece.length_takeEach? secret
      simp only [Option.bind_some, Option.map_some]
      cases after : Piece.takeEach? (Piece.lastOf previous₁ (cs₁.take s.sum)) (cs₁.drop s.sum) p.after with
      | none => rfl
      | some a => simp [measured, ← long, ← long₁]

end CredentialPattern

namespace Credential

open Piece

theorem steady_keyValue : Steady (keyValue.before ++ (keyValue.secret ++ keyValue.after)) := by
  simp only [keyValue, List.cons_append, List.nil_append, List.append_nil, Steady, and_true]
  refine ⟨settles_of_single single_edge _, settles_of_single (single_anyWord keyWords_apart) _, ?gap,
    settles_of_single (single_run _) _, ?gap', ?quote, ?value⟩
  case gap =>
    refine settles_of_refuse (refuse_run fun c blank => Bool.eq_false_iff.2 fun sign => ?_)
    simp only [Bool.or_eq_true, decide_eq_true_eq] at sign
    rcases sign with rfl | rfl <;> exact absurd blank (by decide)
  case gap' =>
    refine settles_of_refuse (refuse_option (fun c blank => Bool.eq_false_iff.2 fun quote => ?_) (refuse_run fun c blank => ?_))
    · rw [isBlank_of_isQuote quote] at blank
      cases blank
    · simp [isValueChar, blank]
  case quote => exact settles_of_refuse (refuse_run fun c quote => by simp [isValueChar, quote])
  case value => exact settles_of_ways (fun _ _ => by simp [ways]) _

theorem steady_bearerToken : Steady (bearerToken.before ++ (bearerToken.secret ++ bearerToken.after)) := by
  have apart : ∀ u ∈ ["bearer".toList], ∀ v ∈ ["bearer".toList], u <+: v → u = v := by decide +kernel
  simp only [bearerToken, List.cons_append, List.nil_append, List.append_nil, Steady, and_true]
  refine ⟨settles_of_single (single_anyWord apart) _, ?gap, settles_of_ways ways_option_ne_nil _,
    settles_of_ways (fun _ _ => by simp [ways]) _⟩
  case gap =>
    refine settles_of_refuse (refuse_run fun c blank => Bool.eq_false_iff.2 fun token => ?_)
    rw [isBlank_of_isTokenChar token] at blank
    cases blank

theorem steady_urlCredentials :
    Steady (urlCredentials.before ++ (urlCredentials.secret ++ urlCredentials.after)) := by
  simp only [urlCredentials, List.cons_append, List.nil_append, Steady, and_true]
  exact ⟨settles_of_single single_edge _, settles_of_single (single_run _) _,
    settles_of_refuse (refuse_exactly (by decide)), settles_of_single (single_exactly _) _,
    settles_of_refuse (refuse_exactly (by decide)), settles_of_single (single_exactly _) _,
    settles_of_refuse (refuse_exactly (by decide)), settles_of_single (single_exactly _) _⟩

/-- For each default pattern, the search that goes back finds what is taken at once. -/
theorem search?_eq_of_default {p : CredentialPattern} (default : p ∈ Sanitizer.defaultPatterns)
    (previous : Option Char) (cs : List Char) : p.search? previous cs = p.matchAt? previous cs := by
  simp only [Sanitizer.defaultPatterns, List.mem_cons, List.not_mem_nil, or_false] at default
  rcases default with rfl | rfl | rfl
  · exact CredentialPattern.search?_eq_matchAt? steady_keyValue previous cs
  · exact CredentialPattern.search?_eq_matchAt? steady_bearerToken previous cs
  · exact CredentialPattern.search?_eq_matchAt? steady_urlCredentials previous cs

end Credential

end KeywordSuite
