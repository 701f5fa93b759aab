import KeywordSuite.Number.Layout

/-!
# Seconds in milliseconds

A time that is not below zero is not below zero in milliseconds either. The product is rounded, so
this is shown on the sign of a number: neither rounding nor packing into bits changes it.
-/

namespace KeywordSuite

open Float.Model (UnpackedFloat Format)
open Float.Model.UnpackedFloat

/-- An unpacked number that is zero, positive or positive infinity. -/
def IsNonneg : UnpackedFloat → Prop
  | .infinity s | .finite s .. => s = .positive
  | .zero _ => True
  | .notANumber => False

theorem zero_le_iff_isNonneg (u : UnpackedFloat) :
    UnpackedFloat.le (.zero .positive) u = true ↔ IsNonneg u := by
  cases u with
  | notANumber => exact iff_of_false Bool.false_ne_true not_false
  | zero s => exact iff_of_true rfl trivial
  | infinity s | finite s m e h =>
    cases s with
    | positive => exact iff_of_true rfl rfl
    | negative => exact iff_of_false Bool.false_ne_true Sign.noConfusion

theorem isNonneg_zero_or_finite {c : Prop} [Decidable c] {s : Sign} {m : Nat} {e : Int} (h : ¬ c → 0 < m) :
    IsNonneg (if hc : c then .zero s else .finite .positive m e (h hc)) := by
  by_cases hc : c
  · rw [dif_pos hc]
    trivial
  · rw [dif_neg hc]
    rfl

/-! ## Packing into bits -/

theorem sign_packComponents_positive (e : BitVec 11) (m : BitVec 52) :
    Sign.ofBitVec (unpackSign (packComponents Format.binary64 .positive e m)) = .positive := by
  have top_bit : unpackSign (packComponents Format.binary64 .positive e m) = 0#1 := by
    have above : (0#1 ++ e ++ m).getLsbD 63 = false := by
      rw [BitVec.getLsbD_append, BitVec.getLsbD_append]
      rfl
    ext i hi
    obtain rfl : i = 0 := by omega
    delta unpackSign
    simp [packComponents, Sign.toBitVec]
    exact above
  rw [top_bit]
  rfl

theorem isNonneg_unpack {b : BitVec Format.binary64.numBits} (positive : Sign.ofBitVec (unpackSign b) = .positive)
    (h : unpackExponent b ≠ -1#11 ∨ unpackMantissa b = 0) : IsNonneg (unpack Format.binary64 b) := by
  delta unpack
  dsimp only
  rw [positive]
  refine iteInduction (fun he => iteInduction (fun _ => rfl) fun hm => ?_) fun _ =>
    iteInduction (fun _ => isNonneg_zero_or_finite _) fun _ => rfl
  exact (h.elim (absurd he) hm).elim

theorem isNonneg_packComponents {e : BitVec 11} {m : BitVec 52} (h : e ≠ -1#11 ∨ m = 0) :
    IsNonneg (unpack Format.binary64 (packComponents Format.binary64 .positive e m)) := by
  refine isNonneg_unpack (sign_packComponents_positive e m) ?_
  rw [unpackExponent_packComponents, unpackMantissa_packComponents]
  exact h

theorem IsNonneg.unpack_pack {u : UnpackedFloat} (h : IsNonneg u) :
    IsNonneg (unpack Format.binary64 (pack Format.binary64 u)) := by
  cases u with
  | notANumber => exact h.elim
  | infinity s =>
    obtain rfl : s = .positive := h
    exact isNonneg_packComponents (.inr rfl)
  | zero s =>
    cases s <;> exact trivial
  | finite s m e hm =>
    obtain rfl : s = .positive := h
    delta pack
    dsimp only
    split
    · exact isNonneg_packComponents (.inr rfl)
    · rename_i hlt
      split
      · refine isNonneg_packComponents (.inl fun he => ?_)
        have biased := congrArg BitVec.toNat he
        simp at biased hlt
        omega
      · exact isNonneg_packComponents (.inl (by decide))

/-! ## Products -/

theorem isNonneg_roundWithAccuracy {m : Nat} {e : Int} {a : Accuracy} :
    IsNonneg (roundWithAccuracy Format.binary64 .positive m e a) := by
  delta roundWithAccuracy
  dsimp only
  exact isNonneg_zero_or_finite _

theorem IsNonneg.mul {u v : UnpackedFloat} {m e h} (hu : IsNonneg u) (hv : v = .finite .positive m e h) :
    IsNonneg (UnpackedFloat.mul Format.binary64 u v) := by
  subst hv
  cases u with
  | notANumber => exact hu.elim
  | infinity s =>
    obtain rfl : s = .positive := hu
    rfl
  | zero s => trivial
  | finite s m' e' h' =>
    obtain rfl : s = .positive := hu
    exact isNonneg_roundWithAccuracy

theorem unpack_zero : (0.0 : Float).toModel.unpack = .zero .positive := by rfl

theorem unpack_thousand :
    (1000.0 : Float).toModel.unpack = .finite .positive 8796093022208000 (-43) (by decide) := by rfl

theorem zero_le_iff_unpack (x : Float) : 0.0 ≤ x ↔ IsNonneg x.toModel.unpack := by
  rw [← zero_le_iff_isNonneg, ← unpack_zero]
  exact decide_eq_true_iff

theorem milliseconds_nonneg {x : Float} (h : 0.0 ≤ x) : 0.0 ≤ x * 1000.0 := by
  rw [zero_le_iff_unpack] at *
  have product : (x * 1000.0).toModel.unpack = unpack Format.binary64 (pack Format.binary64
      (UnpackedFloat.mul Format.binary64 x.toModel.unpack (1000.0 : Float).toModel.unpack)) := by rfl
  rw [product]
  exact (h.mul unpack_thousand).unpack_pack

end KeywordSuite
