import KeywordSuite.Json.Reader
import KeywordSuite.Proofs.Entries
import Mathlib.Data.List.Forall2
import Mathlib.Data.List.TakeWhile
import Mathlib.Tactic.Ring

/-!
# Values read from JSON text

A value has a text unless something in it refuses one: an integer of too many digits, or a value
that cannot be shown. The reader makes neither.
-/

namespace KeywordSuite

theorem ok_of_bind {ε α β : Type} {x : Except ε α} {f : α → Except ε β} {b : β} (h : x >>= f = .ok b) :
    ∃ a, x = .ok a ∧ f a = .ok b := by
  cases x with
  | ok a => exact ⟨a, rfl, h⟩
  | error e => cases h

theorem bind_eq_ok_iff {ε α β : Type} {x : Except ε α} {f : α → Except ε β} {b : β} :
    x >>= f = .ok b ↔ ∃ a, x = .ok a ∧ f a = .ok b :=
  ⟨ok_of_bind, fun ⟨_, here, next⟩ => by rw [here]; exact next⟩

theorem mapM_eq_ok_iff {ε α β : Type} {f : α → Except ε β} {l : List α} {bs : List β} :
    l.mapM f = .ok bs ↔ List.Forall₂ (fun a b => f a = .ok b) l bs := by
  induction l generalizing bs with
  | nil =>
    rw [List.forall₂_nil_left_iff]
    exact ⟨fun read => (Except.ok.inj read).symm, fun empty => congrArg Except.ok empty.symm⟩
  | cons a l ih =>
    simp only [List.mapM_cons, List.forall₂_cons_left_iff, bind_eq_ok_iff, ih]
    refine exists_congr fun b => ⟨?_, ?_⟩
    · rintro ⟨here, rest, others, ⟨⟩⟩
      exact ⟨rest, here, others, rfl⟩
    · rintro ⟨rest, here, others, rfl⟩
      exact ⟨here, rest, others, rfl⟩

theorem exists_mapM_ok {ε α β : Type} {f : α → Except ε β} : ∀ {l : List α}, (∀ a ∈ l, ∃ b, f a = .ok b) →
    ∃ bs, l.mapM f = .ok bs
  | [], _ => ⟨[], rfl⟩
  | a :: l, each => by
    obtain ⟨⟨b, first⟩, others⟩ := List.forall_mem_cons.1 each
    obtain ⟨bs, rest⟩ := exists_mapM_ok others
    exact ⟨b :: bs, by rw [List.mapM_cons, first, rest]; rfl⟩

/-- A value that can be shown, inside a list or a mapping as well as on its own. -/
def Value.Shows (v : Value) : Prop := ∃ s, v.display = .ok s

namespace Value

variable {v : Value}

theorem Shows.toText (h : v.Shows) : ∃ s, v.toText = .ok s := by
  obtain ⟨s, h⟩ := h
  cases v with
  | text _ | datetime _ | date _ | time _ | verdict _ => exact ⟨_, rfl⟩
  | _ => exact ⟨s, h⟩

theorem Shows.cellText (h : v.Shows) : ∃ s, v.cellText = .ok s := by
  have text := h.toText
  cases v with
  | null | bool _ | float _ => exact ⟨_, rfl⟩
  | _ => exact text

theorem exists_displays_iff {items : List Value} :
    (∃ parts, displays items = .ok parts) ↔ ∀ v ∈ items, v.Shows := by
  induction items with
  | nil => exact ⟨fun _ => by simp, fun _ => ⟨[], rfl⟩⟩
  | cons v rest ih =>
    rw [List.forall_mem_cons, ← ih]
    refine ⟨fun ⟨parts, h⟩ => ?_, fun ⟨⟨first, hfirst⟩, parts, hparts⟩ => ?_⟩
    · obtain ⟨first, hfirst, h⟩ := ok_of_bind h
      obtain ⟨more, hmore, -⟩ := ok_of_bind h
      exact ⟨⟨first, hfirst⟩, more, hmore⟩
    · exact ⟨first :: parts, by simp only [displays, hfirst, hparts]; rfl⟩

theorem exists_displayEntries_iff {entries : Entries Value} :
    (∃ parts, displayEntries entries = .ok parts) ↔ ∀ entry ∈ entries, entry.2.Shows := by
  induction entries with
  | nil => exact ⟨fun _ => by simp, fun _ => ⟨[], rfl⟩⟩
  | cons entry rest ih =>
    rw [List.forall_mem_cons, ← ih]
    refine ⟨fun ⟨parts, h⟩ => ?_, fun ⟨⟨first, hfirst⟩, parts, hparts⟩ => ?_⟩
    · obtain ⟨first, hfirst, h⟩ := ok_of_bind h
      obtain ⟨more, hmore, -⟩ := ok_of_bind h
      exact ⟨⟨first, hfirst⟩, more, hmore⟩
    · exact ⟨(Text.quoted entry.1 ++ ": " ++ first) :: parts, by
        simp only [displayEntries, hfirst, hparts]; rfl⟩

theorem shows_list_iff {items : List Value} : (Value.list items).Shows ↔ ∀ v ∈ items, v.Shows := by
  rw [← exists_displays_iff]
  refine ⟨fun ⟨s, h⟩ => ?_, fun ⟨parts, h⟩ => ⟨_, by simp only [display, h]; rfl⟩⟩
  obtain ⟨parts, h, -⟩ := ok_of_bind h
  exact ⟨parts, h⟩

theorem shows_dict_iff {entries : Entries Value} :
    (Value.dict entries).Shows ↔ ∀ entry ∈ entries, entry.2.Shows := by
  rw [← exists_displayEntries_iff]
  refine ⟨fun ⟨s, h⟩ => ?_, fun ⟨parts, h⟩ => ⟨_, by simp only [display, h]; rfl⟩⟩
  obtain ⟨parts, h, -⟩ := ok_of_bind h
  exact ⟨parts, h⟩

theorem shows_int {n : Int} (h : n.natAbs < 10 ^ integerDigitLimit) : (Value.int n).Shows := by
  have short : (toString n.natAbs).length ≤ integerDigitLimit :=
    (Nat.length_repr_le_iff (by decide)).2 h
  exact ⟨signText (n < 0) ++ toString n.natAbs, by simp only [display, intText, Nat.not_lt.2 short, if_false]⟩

end Value

theorem digitsToNat_lt {cs : List Char} (h : ∀ c ∈ cs, c.isDigit = true) : digitsToNat cs < 10 ^ cs.length := by
  have general : ∀ (cs : List Char) (n : Nat), (∀ c ∈ cs, c.isDigit = true) →
      cs.foldl (fun n c => 10 * n + (c.toNat - 48)) n < (n + 1) * 10 ^ cs.length := by
    intro cs
    induction cs with
    | nil => intro n _; simp
    | cons c rest ih =>
      intro n digits
      have digit : c.toNat - 48 ≤ 9 := by
        have := digits c (by simp)
        simp only [Char.isDigit, Bool.and_eq_true, decide_eq_true_eq] at this
        have upper : c.toNat ≤ 57 := this.2
        omega
      calc rest.foldl _ (10 * n + (c.toNat - 48))
          < (10 * n + (c.toNat - 48) + 1) * 10 ^ rest.length := ih _ fun d hd => digits d (by simp [hd])
        _ ≤ ((n + 1) * 10) * 10 ^ rest.length := Nat.mul_le_mul_right _ (by omega)
        _ = (n + 1) * 10 ^ (c :: rest).length := by rw [List.length_cons, Nat.pow_succ]; ring
  simpa [digitsToNat] using general cs 0 h

namespace Json

variable {c after : Cursor} {v : Value}

theorem digitRun_isDigit {d : Char} (more : List Char) (_ : d.isDigit = true) :
    ∀ x ∈ (if d == '0' then ['0'] else (d :: more).takeWhile Char.isDigit), x.isDigit = true := by
  intro x hx
  split at hx
  · obtain rfl := List.mem_singleton.1 hx
    rfl
  · exact List.mem_takeWhile_imp hx

theorem shows_of_readNumber (h : readNumber c = .ok (v, after)) : v.Shows := by
  unfold readNumber at h
  dsimp only at h
  split at h
  · cases h
  rename_i d more body
  rw [body] at h
  split at h
  · cases h
  rename_i digit
  have digits := digitRun_isDigit more (by simpa using digit)
  generalize (if d == '0' then ['0'] else (d :: more).takeWhile Char.isDigit) = whole at h digits
  generalize (if d == '0' then more else (d :: more).dropWhile Char.isDigit) = rest at h
  split at h
  · split at h
    · cases h
    rename_i short
    cases h
    have small : digitsToNat whole < 10 ^ integerDigitLimit :=
      Nat.lt_of_lt_of_le (digitsToNat_lt digits) (Nat.pow_le_pow_right (by decide) (Nat.not_lt.1 short))
    apply Value.shows_int
    split <;> simpa using small
  · split at h
    · cases h
      exact ⟨_, rfl⟩
    · cases h

theorem shows_of_readScalar (h : readScalar c = .ok (v, after)) : v.Shows := by
  unfold readScalar at h
  split at h
  · rename_i word value found
    have listed := List.mem_of_find?_eq_some found
    cases h
    simp only [words, List.mem_cons, Prod.mk.injEq, List.not_mem_nil, or_false] at listed
    rcases listed with ⟨_, rfl⟩ | ⟨_, rfl⟩ | ⟨_, rfl⟩ | ⟨_, rfl⟩ | ⟨_, rfl⟩ | ⟨_, rfl⟩ <;> exact ⟨_, rfl⟩
  · exact shows_of_readNumber h

/-- What the three readers of one depth make can be shown, as long as what was read before can. -/
structure ShowsAt (depth : Nat) : Prop where
  value : ∀ {c v after}, readValue depth c = .ok (v, after) → v.Shows
  items : ∀ {seen c v after}, (∀ item ∈ seen, item.Shows) → readItems depth seen c = .ok (v, after) → v.Shows
  members : ∀ {seen c v after}, (∀ entry ∈ seen, entry.2.Shows) →
    readMembers depth seen c = .ok (v, after) → v.Shows

theorem showsAt_zero : ShowsAt 0 where
  value h := by unfold readValue at h; cases h
  items _ h := by unfold readItems at h; cases h
  members _ h := by unfold readMembers at h; cases h

variable {depth : Nat} (deeper : ShowsAt depth)

include deeper

theorem ShowsAt.succ_value (h : readValue (depth + 1) c = .ok (v, after)) : v.Shows := by
  unfold readValue at h
  split at h
  · obtain ⟨text, -, h⟩ := ok_of_bind h
    cases h
    exact ⟨_, rfl⟩
  · dsimp only at h
    split at h
    · cases h
      exact Value.shows_list_iff.2 (by simp)
    · exact deeper.items (by simp) h
  · dsimp only at h
    split at h
    · cases h
      exact Value.shows_dict_iff.2 (by simp)
    · exact deeper.members (by simp) h
  · exact shows_of_readScalar h

theorem ShowsAt.succ_items {seen : List Value} (hseen : ∀ item ∈ seen, item.Shows)
    (h : readItems (depth + 1) seen c = .ok (v, after)) : v.Shows := by
  unfold readItems at h
  obtain ⟨⟨item, rest⟩, hitem, h⟩ := ok_of_bind h
  have hall : ∀ other ∈ item :: seen, other.Shows := by
    simpa using ⟨deeper.value hitem, hseen⟩
  dsimp only at h
  split at h
  · cases h
    exact Value.shows_list_iff.2 (by simpa [or_comm] using hall)
  · exact deeper.items hall h
  · cases h

theorem ShowsAt.succ_members {seen : Entries Value} (hseen : ∀ entry ∈ seen, entry.2.Shows)
    (h : readMembers (depth + 1) seen c = .ok (v, after)) : v.Shows := by
  unfold readMembers at h
  split at h
  swap
  · cases h
  obtain ⟨⟨name, rest⟩, -, h⟩ := ok_of_bind h
  dsimp only at h
  split at h
  swap
  · cases h
  obtain ⟨⟨value, rest⟩, hvalue, h⟩ := ok_of_bind h
  have hall : ∀ entry ∈ seen.set name value, entry.2.Shows := Entries.forall_set hseen (deeper.value hvalue)
  dsimp only at h
  split at h
  · cases h
    exact Value.shows_dict_iff.2 hall
  · exact deeper.members hall h
  · cases h

omit deeper

theorem showsAt (depth : Nat) : ShowsAt depth := by
  induction depth with
  | zero => exact showsAt_zero
  | succ depth ih => exact ⟨ih.succ_value, ih.succ_items, ih.succ_members⟩

/-- Every value that is read from a text can be shown again. -/
theorem shows_of_read {text : String} (h : read text = .ok v) : v.Shows := by
  unfold read at h
  cases hread : readDocument text.toList with
  | error fault => rw [hread] at h; cases h
  | ok value =>
    rw [hread] at h
    cases h
    unfold readDocument at hread
    split at hread
    · cases hread
    · obtain ⟨⟨w, rest⟩, hvalue, hread⟩ := ok_of_bind hread
      dsimp only at hread
      split at hread
      · cases hread
        exact (showsAt _).value hvalue
      · cases hread

end Json

end KeywordSuite
