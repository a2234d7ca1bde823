import Toolpath.Proofs.Difference

/-! Which numbers are finite once they are rounded: those below the tie between the greatest finite
number and the next power of two. -/

namespace Toolpath

open Float.Model (Format UnpackedFloat totalExponent)
open Float.Model.UnpackedFloat

variable {s t : Sign} {m n : Nat} {e f k : Int} {accuracy : Accuracy}

inductive Below (k : Int) : UnpackedFloat → Prop
  | zero (s : Sign) : Below k (.zero s)
  | finite (s : Sign) (m : Nat) (e : Int) (hm : 0 < m) : e ≤ k → Below k (.finite s m e hm)

lemma Below.isFinite {u : UnpackedFloat} (h : Below k u) : u.isFinite := by
  cases h <;> rfl

lemma below_finite {hm : 0 < m} : Below k (.finite s m e hm) ↔ e ≤ k :=
  ⟨fun h => by cases h; assumption, .finite s m e hm⟩

/-! Mantissas in halves of their unit. -/

def halves (m : ExtendedMantissa) : Nat := 2 * m.mantissa + m.roundBit.toNat

lemma mantissa_eq_halves (m : ExtendedMantissa) : m.mantissa = halves m / 2 := by
  have hbit := Bool.toNat_le m.roundBit
  rw [halves]
  omega

lemma halves_shiftRightOne (m : ExtendedMantissa) : halves m.shiftRightOne = halves m / 2 := by
  have hbit := Bool.toNat_le m.roundBit
  have hlow : (m.mantissa % 2 != 0).toNat = m.mantissa % 2 := by
    rcases Nat.mod_two_eq_zero_or_one m.mantissa with h | h <;> rw [h] <;> rfl
  simp only [halves, ExtendedMantissa.shiftRightOne, hlow]
  omega

lemma halves_shiftRight (m : ExtendedMantissa) (n : Nat) : halves (m >>> n) = halves m / 2 ^ n := by
  induction n with
  | zero => exact (Nat.div_one _).symm
  | succ n ih =>
    have hstep : halves (m >>> (n + 1)) = halves (m >>> n) / 2 := halves_shiftRightOne _
    rw [hstep, ih, Nat.div_div_eq_div_mul, Nat.pow_succ]

lemma halves_ofMantissaAndAccuracy (m : Nat) (accuracy : Accuracy) :
    halves (.ofMantissaAndAccuracy m accuracy) / 2 = m := by
  rw [← mantissa_eq_halves]
  cases accuracy with
  | exact => rfl
  | inexact o => cases o <;> rfl

lemma halves_lt_two_pow (m : Nat) (accuracy : Accuracy) :
    halves (.ofMantissaAndAccuracy m accuracy) < 2 ^ (m.log2 + 2) := by
  have hhalves := halves_ofMantissaAndAccuracy m accuracy
  have hhigh := @Nat.lt_log2_self m
  rw [Nat.pow_succ]
  omega

lemma two_pow_le_halves (hm : m ≠ 0) (accuracy : Accuracy) :
    2 ^ (m.log2 + 1) ≤ halves (.ofMantissaAndAccuracy m accuracy) := by
  have hhalves := halves_ofMantissaAndAccuracy m accuracy
  have hlow := Nat.log2_self_le hm
  rw [Nat.pow_succ]
  omega

/-- A tie below a power of two goes up to it, so nothing below the round bit matters there. -/
lemma roundedMantissa_lt_iff (m : ExtendedMantissa) :
    m.roundedMantissa < 2 ^ 53 ↔ halves m < 2 ^ 54 - 1 := by
  obtain ⟨mantissa, roundBit, stickyBit⟩ := m
  cases roundBit <;> cases stickyBit <;>
    simp only [halves, ExtendedMantissa.roundedMantissa, ExtendedMantissa.accuracy,
      Accuracy.roundToNearestEven, Bool.toNat_false, Bool.toNat_true] <;>
    omega

lemma roundedMantissa_le (m : ExtendedMantissa) : m.roundedMantissa ≤ m.mantissa + 1 := by
  rw [ExtendedMantissa.roundedMantissa]
  cases m.accuracy with
  | exact => exact Nat.le_succ _
  | inexact o =>
    cases o with
    | lt => exact Nat.le_succ _
    | gt => exact Nat.le_refl _
    | eq =>
      have hparity : m.mantissa % 2 ≤ 1 := Nat.le_of_lt_succ (Nat.mod_lt _ Nat.two_pos)
      exact Nat.add_le_add_left hparity _

/-! The mantissa and the exponent that are rounded. -/

abbrev shifted (m : Nat) (e : Int) (accuracy : Accuracy) : ExtendedMantissa × Int :=
  shiftToTargetExponent .binary64 m e accuracy

lemma exponent_shifted (m : Nat) (e : Int) (accuracy : Accuracy) :
    (shifted m e accuracy).2 = max e (max (totalExponent m e - 53) (-1074)) := by
  simp only [shifted, shiftToTargetExponent, shiftToExponent, targetExponent_binary64]
  omega

lemma halves_shifted (m : Nat) (e : Int) (accuracy : Accuracy) :
    halves (shifted m e accuracy).1 = halves (.ofMantissaAndAccuracy m accuracy) /
      2 ^ ((shifted m e accuracy).2 - e).toNat := by
  have hshift : (max e (max (totalExponent m e - 53) (-1074)) - e).toNat =
      (max (totalExponent m e - 53) (-1074) - e).toNat := by omega
  rw [exponent_shifted, hshift, shifted, shiftToTargetExponent, shiftToExponent]
  exact halves_shiftRight _ _

lemma log2_roundedMantissa_le (m : Nat) (e : Int) (accuracy : Accuracy) :
    (shifted m e accuracy).1.roundedMantissa.log2 ≤ 53 := by
  have hhalves : halves (shifted m e accuracy).1 < 2 ^ 54 := by
    rw [halves_shifted, Nat.div_lt_iff_lt_mul (Nat.two_pow_pos _), ← Nat.pow_add]
    refine Nat.lt_of_lt_of_le (halves_lt_two_pow m accuracy) ?_
    refine Nat.pow_le_pow_right (by decide) ?_
    rw [exponent_shifted, totalExponent]
    omega
  have hle := roundedMantissa_le (shifted m e accuracy).1
  rw [mantissa_eq_halves] at hle
  by_cases hzero : (shifted m e accuracy).1.roundedMantissa = 0
  · simp [hzero]
  · exact Nat.le_of_lt_succ ((Nat.log2_lt hzero).mpr (by omega))

/-- Rounding shifts twice, since the rounded mantissa may have a bit too many. -/
lemma below_roundWithAccuracy_iff_rounded (hk : -1074 ≤ k) :
    Below k (roundWithAccuracy .binary64 s m e accuracy) ↔
      (shifted m e accuracy).1.roundedMantissa = 0 ∨ (shifted m e accuracy).2 ≤ k ∧
        totalExponent (shifted m e accuracy).1.roundedMantissa (shifted m e accuracy).2 ≤
          k + 53 := by
  have hexponent := exponent_shifted m e accuracy
  rw [roundWithAccuracy]
  dsimp only [shifted] at *
  generalize shiftToTargetExponent .binary64 m e accuracy = first at *
  generalize first.1.roundedMantissa = rounded
  by_cases hzero : rounded = 0
  · have hnone : (shifted rounded first.2 .exact).1.mantissa = 0 := by
      rw [hzero, mantissa_eq_halves, halves_shifted]
      simp [halves, ExtendedMantissa.ofMantissaAndAccuracy]
    rw [dif_pos hnone]
    exact iff_of_true (.zero s) (.inl hzero)
  · have hpos := (shiftToTargetExponent_bounds (Nat.pos_of_ne_zero hzero)
      (e := first.2) (by omega)).1
    have hagain := exponent_shifted rounded first.2 .exact
    rw [dif_neg (Nat.ne_of_gt hpos), below_finite, hagain]
    omega

section Exponent

/-! How the exponent compares with `k` before the mantissa is rounded. -/

lemma below_of_exponent_lt (hk : -1074 ≤ k) (h : (shifted m e accuracy).2 < k) :
    Below k (roundWithAccuracy .binary64 s m e accuracy) := by
  have hlog := log2_roundedMantissa_le m e accuracy
  rw [below_roundWithAccuracy_iff_rounded hk, totalExponent]
  omega

lemma halves_lt_of_exponent_lt (h : (shifted m e accuracy).2 < k) :
    halves (.ofMantissaAndAccuracy m accuracy) < 2 ^ 53 * 2 ^ (k - e).toNat := by
  rw [← Nat.pow_add]
  refine Nat.lt_of_lt_of_le (halves_lt_two_pow m accuracy) ?_
  refine Nat.pow_le_pow_right (by decide) ?_
  rw [exponent_shifted, totalExponent] at h
  omega

lemma below_iff_of_exponent_eq (hk : -1074 ≤ k) (h : (shifted m e accuracy).2 = k) :
    Below k (roundWithAccuracy .binary64 s m e accuracy) ↔
      halves (.ofMantissaAndAccuracy m accuracy) < (2 ^ 54 - 1) * 2 ^ (k - e).toNat := by
  have hrounded := roundedMantissa_lt_iff (shifted m e accuracy).1
  rw [halves_shifted, Nat.div_lt_iff_lt_mul (Nat.two_pow_pos _), h] at hrounded
  rw [below_roundWithAccuracy_iff_rounded hk, h, ← hrounded]
  by_cases hzero : (shifted m e accuracy).1.roundedMantissa = 0
  · simp [hzero]
  · rw [← Nat.log2_lt hzero, totalExponent]
    omega

variable (he : e ≤ k) (h : k < (shifted m e accuracy).2)

include he h

lemma two_pow_le_halves_of_lt_exponent (hk : -1074 ≤ k) {j : Nat}
    (hj : j + e ≤ 53 + (shifted m e accuracy).2) :
    2 ^ j ≤ halves (.ofMantissaAndAccuracy m accuracy) := by
  rw [exponent_shifted, totalExponent] at h hj
  have hm : m ≠ 0 := by
    rintro rfl
    rw [Nat.log2_zero] at h
    omega
  exact Nat.le_trans (Nat.pow_le_pow_right (by decide) (by omega)) (two_pow_le_halves hm accuracy)

lemma not_below_of_lt_exponent (hk : -1074 ≤ k) :
    ¬ Below k (roundWithAccuracy .binary64 s m e accuracy) := by
  have hhalves : 2 ^ 53 ≤ halves (shifted m e accuracy).1 := by
    rw [halves_shifted, Nat.le_div_iff_mul_le (Nat.two_pow_pos _), ← Nat.pow_add]
    exact two_pow_le_halves_of_lt_exponent he h hk (by omega)
  have hle := le_roundedMantissa (shifted m e accuracy).1
  rw [mantissa_eq_halves] at hle
  rw [below_roundWithAccuracy_iff_rounded hk]
  omega

lemma two_pow_mul_le_halves (hk : -1074 ≤ k) :
    2 ^ 54 * 2 ^ (k - e).toNat ≤ halves (.ofMantissaAndAccuracy m accuracy) := by
  rw [← Nat.pow_add]
  exact two_pow_le_halves_of_lt_exponent he h hk (by omega)

end Exponent

theorem below_roundWithAccuracy (hk : -1074 ≤ k) (he : e ≤ k) :
    Below k (roundWithAccuracy .binary64 s m e accuracy) ↔
      halves (.ofMantissaAndAccuracy m accuracy) < (2 ^ 54 - 1) * 2 ^ (k - e).toNat := by
  have hunit := Nat.two_pow_pos (k - e).toNat
  -- only at the exponent `k` itself does it matter how the mantissa is rounded
  rcases Int.lt_trichotomy (shifted m e accuracy).2 k with hlt | heq | hgt
  · have hhalves := halves_lt_of_exponent_lt (e := e) hlt
    exact iff_of_true (below_of_exponent_lt hk hlt) (by omega)
  · exact below_iff_of_exponent_eq hk heq
  · have hhalves := two_pow_mul_le_halves he hgt hk
    exact iff_of_false (not_below_of_lt_exponent he hgt hk) (by omega)

/-! Operations. -/

lemma two_mul_lt_shift {c j : Nat} (n i : Nat) :
    2 * (n * 2 ^ i) < c * 2 ^ (j + i) ↔ 2 * n < c * 2 ^ j := by
  rw [Nat.pow_add, ← Nat.mul_assoc, ← Nat.mul_assoc]
  exact Nat.mul_lt_mul_right (Nat.two_pow_pos i)

lemma below_round (hk : -1074 ≤ k) (he : e ≤ k) :
    Below k (UnpackedFloat.round .binary64 s m e) ↔
      2 * m < (2 ^ 54 - 1) * 2 ^ (k - e).toNat := by
  simp only [UnpackedFloat.round, decreaseExponent]
  generalize (e - Format.binary64.targetExponent (totalExponent m e)).toNat = shift
  have hexponent : (k - (e - shift)).toNat = (k - e).toNat + shift := by omega
  rw [below_roundWithAccuracy hk (by omega), hexponent, Nat.shiftLeft_eq]
  exact two_mul_lt_shift m shift

lemma below_ofNat (hk : 0 ≤ k) :
    Below k (UnpackedFloat.ofNat .binary64 n) ↔ 2 * n < (2 ^ 54 - 1) * 2 ^ k.toNat := by
  rw [UnpackedFloat.ofNat, UnpackedFloat.ofInt, UnpackedFloat.normalize]
  split
  · next h =>
    have hneg : (n : Int) < 0 := Std.compare_eq_lt.mp h
    omega
  · next h =>
    have hzero : (n : Int) = 0 := Std.compare_eq_iff_eq.mp h
    obtain rfl : n = 0 := by omega
    exact iff_of_true (.zero _) (by simp)
  · rw [below_round (by omega) hk, Int.toNat_natCast, Int.sub_zero]

lemma below_mul {hm : 0 < m} {hn : 0 < n} (hk : -1074 ≤ k) (h : e + f ≤ k) :
    Below k (mul .binary64 (.finite s m e hm) (.finite t n f hn)) ↔
      2 * (m * n) < (2 ^ 54 - 1) * 2 ^ (k - (e + f)).toNat :=
  below_roundWithAccuracy hk h

lemma halves_quotient (m : Nat) (hn : 0 < n) :
    halves (.ofMantissaAndAccuracy (m / n) (accuracyOfFraction (m % n) n)) = 2 * m / n := by
  have hlt := Nat.mod_lt m hn
  have hsplit : 2 * m / n = 2 * (m / n) + 2 * (m % n) / n := by
    rw [← Nat.mul_add_div hn, Nat.mul_left_comm, ← Nat.mul_add, Nat.div_add_mod]
  rw [hsplit, accuracyOfFraction]
  generalize m / n = q
  generalize m % n = r at *
  split
  · next hzero => simp [hzero, halves, ExtendedMantissa.ofMantissaAndAccuracy]
  · by_cases hhalf : 2 * r < n
    · have hcompare : compare (2 * r) n = .lt := Std.compare_eq_lt.mpr hhalf
      rw [hcompare, Nat.div_eq_of_lt hhalf]
      rfl
    · have hone : 2 * r / n = 1 := Nat.div_eq_of_lt_le (by omega) (by omega)
      rw [hone]
      rcases Nat.lt_or_eq_of_le (Nat.le_of_not_lt hhalf) with hgt | heq
      · have hcompare : compare (2 * r) n = .gt := Std.compare_eq_gt.mpr hgt
        rw [hcompare]
        rfl
      · have hcompare : compare (2 * r) n = .eq := Std.compare_eq_iff_eq.mpr heq.symm
        rw [hcompare]
        rfl

lemma below_div {hm : 0 < m} {hn : 0 < n} (hk : -1074 ≤ k) (h : e - f ≤ k) :
    Below k (div .binary64 (.finite s m e hm) (.finite t n f hn)) ↔
      2 * m < (2 ^ 54 - 1) * n * 2 ^ (k - (e - f)).toNat := by
  have hle := Int.min_le_left (e - f)
    (Format.binary64.targetExponent (totalExponent m e - totalExponent n f))
  rw [div, divCore]
  dsimp only
  generalize min (e - f) _ = target at *
  obtain ⟨shift, rfl⟩ : ∃ shift : Nat, target = e - f - shift :=
    ⟨(e - f - target).toNat, by omega⟩
  have hexponent : (k - (e - f - shift)).toNat = (k - (e - f)).toNat + shift := by omega
  have hamount : (e - f - (e - f - shift)).toNat = shift := by omega
  rw [below_roundWithAccuracy hk (by omega), halves_quotient _ hn, Nat.div_lt_iff_lt_mul hn,
    hexponent, hamount, Nat.shiftLeft_eq, Nat.mul_right_comm]
  exact two_mul_lt_shift m shift

lemma below_neg {u : UnpackedFloat} : Below k u.neg ↔ Below k u := by
  cases u with
  | notANumber | infinity => exact iff_of_false nofun nofun
  | zero s => exact iff_of_true (.zero _) (.zero _)
  | finite s m e hm => rw [neg, below_finite, below_finite]

lemma isNaN_neg (u : UnpackedFloat) : u.neg.isNaN = u.isNaN := by
  cases u <;> rfl

/-! Packing keeps exponents that fit, and turns numbers with greater ones into infinities. -/

lemma below_unpack {b : BitVec Format.binary64.numBits}
    (hexponent : ((unpackExponent b).toNat : Int) ≤ k + 1075)
    (hnumber : unpackExponent b ≠ -1#_) (hk : -1074 ≤ k) : Below k (unpack .binary64 b) := by
  have hbias : Format.binary64.exponentBias = 1023 := by decide
  have hbits : Format.binary64.mantissaBitsWithoutImplicit = 52 := rfl
  unfold unpack
  dsimp only
  rw [if_neg hnumber, hbias]
  split
  · next hzero =>
    split
    · exact .zero _
    · apply Below.finite
      rw [hzero]
      exact hk
  · apply Below.finite
    change ((unpackExponent b).toNat : Int) - (1023 + 52) ≤ k
    omega

lemma isFinite_unpack {b : BitVec Format.binary64.numBits} :
    (unpack .binary64 b).isFinite ↔ Below 971 (unpack .binary64 b) := by
  refine ⟨fun h => ?_, Below.isFinite⟩
  have hlt : (unpackExponent b).toNat < 2 ^ 11 := (unpackExponent b).isLt
  have hnumber : unpackExponent b ≠ -1#_ := by
    intro hexponent
    unfold unpack at h
    dsimp only at h
    rw [if_pos hexponent] at h
    split at h <;> cases h
  have hne : (unpackExponent b).toNat ≠ 2047 := fun heq => hnumber (BitVec.eq_of_toNat_eq heq)
  exact below_unpack (by omega) hnumber (by decide)

lemma below_unpack_packComponents {f : BitVec 11} (m : BitVec 52) (hf : (f.toNat : Int) ≤ k + 1075)
    (hnumber : f ≠ -1#11) (hk : -1074 ≤ k) :
    Below k (unpack .binary64 (packComponents .binary64 s f m)) := by
  apply below_unpack _ _ hk
  · rw [unpackExponent_packComponents]
    exact hf
  · rw [unpackExponent_packComponents]
    exact hnumber

lemma below_unpack_pack {u : UnpackedFloat} (h : Below k u) (hk : -1074 ≤ k) (hlimit : k ≤ 971) :
    Below k (unpack .binary64 (pack .binary64 u)) := by
  cases h with
  | zero s =>
    have hzero := @below_unpack_packComponents s k 0#11 0#52
    exact hzero (by simp; omega) (by decide) hk
  | finite s m e hm he =>
    have hbias : Format.binary64.exponentBias = 1023 := by decide
    have hcomponents := @below_unpack_packComponents s k
    delta pack
    dsimp only
    rw [hbias]
    split
    · next hinfinite =>
      exfalso
      change 2048 ≤ (e + 1023 + 52).toNat + 1 at hinfinite
      omega
    · split
      · next hfits _ =>
        change ¬ 2048 ≤ (e + 1023 + 52).toNat + 1 at hfits
        have hfield : (BitVec.ofNat 11 (e + 1023 + 52).toNat).toNat = (e + 1023 + 52).toNat :=
          Nat.mod_eq_of_lt (by omega)
        refine hcomponents _ ?_ (ofNat_ne_ofNat (k := 2047) ?_ (by decide) ?_) hk
        · change ((BitVec.ofNat 11 (e + 1023 + 52).toNat).toNat : Int) ≤ _
          rw [hfield]
          omega
        · change (e + 1023 + 52).toNat < 2048
          omega
        · change (e + 1023 + 52).toNat ≠ 2047
          omega
      · exact hcomponents _ (by simp; omega) (by decide) hk

lemma unpack_packedInfinity (s : Sign) :
    unpack .binary64 (packedInfinity .binary64 s) = .infinity s := by
  cases s <;> rfl

lemma unpack_packedNaN : unpack .binary64 (packedNaN .binary64) = .notANumber := rfl

lemma pack_of_lt {hm : 0 < m} (h : 971 < e) :
    pack .binary64 (.finite s m e hm) = packedInfinity .binary64 s := by
  have hbias : Format.binary64.exponentBias = 1023 := by decide
  delta pack
  dsimp only
  rw [hbias]
  refine if_pos ?_
  change 2048 ≤ (e + 1023 + 52).toNat + 1
  omega

theorem isFinite_unpack_pack (u : UnpackedFloat) :
    (unpack .binary64 (pack .binary64 u)).isFinite ↔ Below 971 u := by
  refine ⟨fun h => ?_, fun h => (below_unpack_pack h (by decide) (by decide)).isFinite⟩
  cases u with
  | notANumber =>
    rw [pack, unpack_packedNaN] at h
    cases h
  | infinity s =>
    rw [pack, unpack_packedInfinity] at h
    cases h
  | zero s => exact .zero s
  | finite s m e hm =>
    rw [below_finite]
    by_contra hlt
    rw [pack_of_lt (Int.lt_of_not_ge hlt), unpack_packedInfinity] at h
    cases h

lemma not_isNaN_of_isFinite {u : UnpackedFloat} (h : u.isFinite) : ¬ u.isNaN := by
  cases u with
  | notANumber => cases h
  | infinity | zero | finite => nofun

theorem not_isNaN_unpack_pack {u : UnpackedFloat} (hu : ¬ u.isNaN) :
    ¬ (unpack .binary64 (pack .binary64 u)).isNaN := by
  by_cases hbelow : Below 971 u
  · exact not_isNaN_of_isFinite ((isFinite_unpack_pack u).mpr hbelow)
  · cases u with
    | notANumber => exact absurd rfl hu
    | infinity s =>
      rw [pack, unpack_packedInfinity]
      nofun
    | zero s => exact absurd (.zero s) hbelow
    | finite s m e hm =>
      rw [below_finite] at hbelow
      rw [pack_of_lt (Int.lt_of_not_ge hbelow), unpack_packedInfinity]
      nofun

end Toolpath
