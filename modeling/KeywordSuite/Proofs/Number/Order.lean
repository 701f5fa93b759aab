import KeywordSuite.Number.Layout

/-!
# Numbers in order

A double is no number exactly if it does not equal itself. Of two numbers the first is at most the second, or else the
second is below it.
-/

namespace KeywordSuite

open Float.Model (UnpackedFloat)
open Float.Model.UnpackedFloat

theorem compare_then_swap (e e' : Int) (m m' : Nat) :
    (compare e' e).then (compare m' m) = ((compare e e').then (compare m m')).swap := by
  rw [Ordering.swap_then, ← Std.OrientedOrd.eq_swap, ← Std.OrientedOrd.eq_swap]

theorem exists_compare {u v : UnpackedFloat} (hu : u ≠ .notANumber) (hv : v ≠ .notANumber) :
    ∃ o, u.compare v = some o ∧ v.compare u = some o.swap := by
  cases u with
  | notANumber => exact absurd rfl hu
  | zero s =>
    rcases v with (_ | _) | _ | (_ | _) | ⟨_ | _, m, e, _⟩ <;> first | exact ⟨_, rfl, rfl⟩ | exact absurd rfl hv
  | infinity s =>
    rcases s with _ | _ <;> rcases v with (_ | _) | _ | (_ | _) | ⟨_ | _, m, e, _⟩ <;>
      first | exact ⟨_, rfl, rfl⟩ | exact absurd rfl hv
  | finite s m e h =>
    -- Two numbers of one sign are told apart by their exponents and then by their mantissas.
    cases s with
    | negative =>
      rcases v with (_ | _) | _ | (_ | _) | ⟨_ | _, m', e', _⟩ <;>
        first | exact ⟨_, rfl, rfl⟩ | exact absurd rfl hv | skip
      exact ⟨_, rfl, congrArg (fun o => some (Ordering.swap o)) (compare_then_swap e e' m m')⟩
    | positive =>
      rcases v with (_ | _) | _ | (_ | _) | ⟨_ | _, m', e', _⟩ <;>
        first | exact ⟨_, rfl, rfl⟩ | exact absurd rfl hv | skip
      exact ⟨_, rfl, congrArg some (compare_then_swap e e' m m')⟩

theorem le_of_lt_eq_false {u v : UnpackedFloat} (hu : u ≠ .notANumber) (hv : v ≠ .notANumber) (h : v.lt u = false) :
    u.le v = true := by
  obtain ⟨o, uv, vu⟩ := exists_compare hu hv
  unfold UnpackedFloat.lt at h
  unfold UnpackedFloat.le
  rw [vu] at h
  rw [uv]
  cases o with
  | gt => cases h
  | lt | eq => rfl

theorem unpack_ne_notANumber {x : Float} (h : (x == x) = true) : x.toModel.unpack ≠ .notANumber := by
  intro no
  have told : x.toModel.unpack.beq x.toModel.unpack = true := h
  rw [no] at told
  cases told

theorem number_le_of_not_lt {x y : Float} (hx : (x == x) = true) (hy : (y == y) = true) (h : ¬ y < x) : x ≤ y :=
  have kept : y.toModel.unpack.lt x.toModel.unpack = false := Bool.eq_false_iff.2 fun below => h (decide_eq_true below)
  decide_eq_true (le_of_lt_eq_false (unpack_ne_notANumber hx) (unpack_ne_notANumber hy) kept)

end KeywordSuite
