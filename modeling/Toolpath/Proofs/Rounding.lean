import Toolpath.Decimal.Dyadic
import Toolpath.Proofs.Comparison

/-! Numbers that are not below zero stay so when they are divided and rounded to integers. -/

namespace Toolpath

open Float.Model (Format UnpackedFloat)
open Float.Model.UnpackedFloat

variable {r : Rounding} {range : IntRange}

lemma IntRange.clamp_nonneg (hhi : 0 ≤ range.hi) {n : Int} (hn : 0 ≤ n) : 0 ≤ range.clamp n := by
  rw [clamp]
  omega

lemma Dyadic.toInt_ofBits_nonneg (hhi : 0 ≤ range.hi) {fraction exponentBits bits : Nat}
    (h : bits >>> (fraction + exponentBits) = 0) :
    0 ≤ (ofBits fraction exponentBits bits).toInt r range := by
  have hsign : (bits >>> (fraction + exponentBits) % 2 == 1) = false := by
    rw [h]
    rfl
  have hfinite (m : Nat) (e : Int) : 0 ≤ (finite false m e).toInt r range :=
    range.clamp_nonneg hhi (Int.natCast_nonneg _)
  simp only [ofBits, hsign]
  split
  · split
    · exact hhi
    · exact Int.le_refl 0
  · split
    · exact hfinite _ _
    · exact hfinite _ _

def Unsigned : UnpackedFloat → Prop
  | .notANumber => True
  | .infinity s | .zero s | .finite s _ _ _ => s = .positive

lemma msb_packComponents (spec : Format) (e : BitVec spec.exponentBits)
    (m : BitVec spec.mantissaBitsWithoutImplicit) :
    (packComponents spec .positive e m).msb = false := by
  rw [packComponents, BitVec.msb_append, BitVec.msb_append]
  simp [Float.Model.UnpackedFloat.Sign.toBitVec]

lemma msb_pack (spec : Format) {u : UnpackedFloat} (h : Unsigned u) : (pack spec u).msb = false := by
  cases u with
  | notANumber => exact msb_packComponents ..
  | infinity s => obtain rfl : s = .positive := h; exact msb_packComponents ..
  | zero s => obtain rfl : s = .positive := h; exact msb_packComponents ..
  | finite s m e hm =>
    obtain rfl : s = .positive := h
    delta pack
    dsimp only
    split
    · exact msb_packComponents ..
    · split
      · exact msb_packComponents ..
      · exact msb_packComponents ..

lemma unsigned_roundWithAccuracy (spec : Format) (m : Nat) (e : Int) (accuracy : Accuracy) :
    Unsigned (roundWithAccuracy spec .positive m e accuracy) := by
  have hrounded (n : Nat) (e : Int) : Unsigned
      (if h : n = 0 then .zero .positive else .finite .positive n e (Nat.pos_of_ne_zero h)) := by
    by_cases h : n = 0
    · rw [dif_pos h]
      rfl
    · rw [dif_neg h]
      rfl
  exact hrounded _ _

lemma unsigned_div (spec : Format) {x y : UnpackedFloat} (hx : Unsigned x) (hy : Unsigned y) :
    Unsigned (div spec x y) := by
  cases x with
  | notANumber => trivial
  | infinity s =>
    obtain rfl : s = .positive := hx
    cases y with
    | notANumber | infinity => trivial
    | zero t => obtain rfl : t = .positive := hy; rfl
    | finite t m e hm => obtain rfl : t = .positive := hy; rfl
  | zero s =>
    obtain rfl : s = .positive := hx
    cases y with
    | notANumber | zero => trivial
    | infinity t => obtain rfl : t = .positive := hy; rfl
    | finite t m e hm => obtain rfl : t = .positive := hy; rfl
  | finite s m e hm =>
    obtain rfl : s = .positive := hx
    cases y with
    | notANumber => trivial
    | infinity t => obtain rfl : t = .positive := hy; rfl
    | zero t => obtain rfl : t = .positive := hy; rfl
    | finite t n f hn =>
      obtain rfl : t = .positive := hy
      exact unsigned_roundWithAccuracy spec _ _ _

lemma unsigned_of_not_lt_zero {u : UnpackedFloat} (h : ¬ u.lt (.zero .positive)) :
    Unsigned u ∨ u = .zero .negative := by
  cases u with
  | notANumber => exact Or.inl trivial
  | infinity s =>
    cases s with
    | positive => exact Or.inl rfl
    | negative => exact absurd rfl h
  | zero s =>
    cases s with
    | positive => exact Or.inl rfl
    | negative => exact Or.inr rfl
  | finite s m e hm =>
    cases s with
    | positive => exact Or.inl rfl
    | negative => exact absurd rfl h

lemma unsigned_of_zero_lt {u : UnpackedFloat} (h : UnpackedFloat.lt (.zero .positive) u) :
    Unsigned u ∧ div .binary64 (.zero .negative) u = .zero .negative := by
  cases u with
  | notANumber => cases h
  | infinity s =>
    cases s with
    | positive => exact ⟨rfl, rfl⟩
    | negative => cases h
  | zero s => cases h
  | finite s m e hm =>
    cases s with
    | positive => exact ⟨rfl, rfl⟩
    | negative => cases h

lemma roundFloat_div_nonneg (hhi : 0 ≤ range.hi) {x y : Float} (hx : ¬ x < 0.0) (hy : 0.0 < y) :
    0 ≤ roundFloat r range (x / y) := by
  have hzero : (0.0 : Float).toModel.unpack = .zero .positive := by rfl
  have hround : roundFloat r range (x / y) = (Dyadic.ofBits 52 11
      (pack .binary64 (div .binary64 x.toModel.unpack y.toModel.unpack)).toNat).toInt r range := rfl
  rw [lt_iff_unpack, hzero] at hx hy
  obtain ⟨hdivisor, hnegative⟩ := unsigned_of_zero_lt hy
  rw [hround]
  rcases unsigned_of_not_lt_zero hx with hdividend | hdividend
  · have hmsb := msb_pack .binary64 (unsigned_div .binary64 hdividend hdivisor)
    have hlt : 2 * _ < 2 * 2 ^ 63 := BitVec.msb_eq_false_iff_two_mul_lt.mp hmsb
    refine Dyadic.toInt_ofBits_nonneg hhi ?_
    rw [Nat.shiftRight_eq_div_pow]
    exact Nat.div_eq_of_lt (Nat.lt_of_mul_lt_mul_left hlt)
  · -- the sign of a zero does not count
    have hbits : Dyadic.ofBits 52 11 (pack .binary64 (.zero .negative)).toNat =
        .finite true 0 (-1074) := by decide
    have hvalue : (Dyadic.finite true 0 (-1074)).toInt r range = range.clamp 0 := by
      cases r <;> simp [Dyadic.toInt, Dyadic.roundMagnitude]
    rw [hdividend, hnegative, hbits, hvalue]
    exact range.clamp_nonneg hhi (Int.le_refl 0)

end Toolpath
