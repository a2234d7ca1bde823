import Toolpath.Decimal.Numeral
import Toolpath.Proofs.Finite

/-! Numerals that are too great: from a limit on they are read as infinite numbers, and none is read
as no number. -/

namespace Toolpath

open Float.Model (Format UnpackedFloat)
open Float.Model.UnpackedFloat

variable {n w : Nat} {e : Int} {u p : UnpackedFloat}

/-- The tie between the greatest finite number and the next power of two. -/
def overflowLimit : Nat := 2 ^ 1024 - 2 ^ 970

lemma two_mul_overflowLimit : 2 * overflowLimit = (2 ^ 54 - 1) * 2 ^ 971 := by decide +kernel

/-! Numbers that differ from the limit by their number of digits already. -/

lemma lt_overflowLimit (hn : n < 10 ^ w) (hw : w + e ≤ 308) :
    (n : ℚ) * 10 ^ e < overflowLimit := by
  have hten : (0 : ℚ) < 10 ^ e := by positivity
  have hcast : (n : ℚ) < 10 ^ w := by exact_mod_cast hn
  have hlimit : 10 ^ 308 < overflowLimit := by decide +kernel
  calc (n : ℚ) * 10 ^ e
    _ < 10 ^ w * 10 ^ e := mul_lt_mul_of_pos_right hcast hten
    _ = 10 ^ (w + e) := by rw [← zpow_natCast, ← zpow_add₀ (by decide)]
    _ ≤ 10 ^ (308 : Nat) := by rw [← zpow_natCast]; exact zpow_le_zpow_right₀ (by decide) hw
    _ < overflowLimit := by exact_mod_cast hlimit

lemma overflowLimit_le (hn : 10 ^ w ≤ n) (hw : 309 ≤ w + e) :
    (overflowLimit : ℚ) ≤ n * 10 ^ e := by
  have hten : (0 : ℚ) < 10 ^ e := by positivity
  have hcast : (10 : ℚ) ^ w ≤ n := by exact_mod_cast hn
  have hlimit : overflowLimit ≤ 10 ^ 309 := by decide +kernel
  calc (overflowLimit : ℚ)
    _ ≤ 10 ^ (309 : Nat) := by exact_mod_cast hlimit
    _ ≤ 10 ^ (w + e) := by rw [← zpow_natCast]; exact zpow_le_zpow_right₀ (by decide) hw
    _ = 10 ^ w * 10 ^ e := by rw [← zpow_natCast, ← zpow_add₀ (by decide)]
    _ ≤ n * 10 ^ e := mul_le_mul_of_nonneg_right hcast hten.le

lemma zero_lt_overflowLimit : (0 : ℚ) < overflowLimit := by
  have hlimit : 0 < overflowLimit := by decide +kernel
  exact_mod_cast hlimit

/-! Numerals of any size are multiplied or divided as whole numbers. -/

lemma below_mul_power (j : Nat) {hn : 0 < n <<< 53} {hten : 0 < 10 ^ j} :
    Below 971 (mul .binary64 (.finite .positive (n <<< 53) (-53) hn)
      (.finite .positive (10 ^ j) 0 hten)) ↔ n * 10 ^ j < overflowLimit := by
  have hexponent : ((971 : Int) - (-53 + 0)).toNat = 971 + 53 := rfl
  rw [below_mul (by decide) (by decide), hexponent, Nat.shiftLeft_eq, Nat.mul_right_comm,
    two_mul_lt_shift, ← two_mul_overflowLimit]
  exact Nat.mul_lt_mul_left Nat.two_pos

lemma below_div_power (j : Nat) {hn : 0 < n} {hten : 0 < 10 ^ j} :
    Below 971 (div .binary64 (.finite .positive n 0 hn) (.finite .positive (10 ^ j) 0 hten)) ↔
      n < overflowLimit * 10 ^ j := by
  have hexponent : ((971 : Int) - (0 - 0)).toNat = 971 := rfl
  rw [below_div (by decide) (by decide), hexponent, Nat.mul_right_comm, ← two_mul_overflowLimit,
    Nat.mul_assoc]
  exact Nat.mul_lt_mul_left Nat.two_pos

lemma below_ofScientific (n : Nat) (e : Int) :
    Below 971 (UnpackedFloat.ofScientific .binary64 n e) ↔ (n : ℚ) * 10 ^ e < overflowLimit := by
  have hbits : (2 : Int) ^ Format.binary64.exponentBits = 2048 := rfl
  rw [UnpackedFloat.ofScientific, hbits]
  split
  · next hn =>
    refine iff_of_true (.zero _) ?_
    rw [hn, Nat.cast_zero, zero_mul]
    exact zero_lt_overflowLimit
  · next hn =>
    split
    · have hle := overflowLimit_le (n := n) (w := 0) (e := e) (Nat.pos_of_ne_zero hn) (by omega)
      exact iff_of_false nofun (not_lt.mpr hle)
    · split
      · have hpow : n < 10 ^ (n.log2 + 1) :=
          Nat.lt_of_lt_of_le Nat.lt_log2_self (Nat.pow_le_pow_left (by decide) _)
        exact iff_of_true (.zero _) (lt_overflowLimit hpow (by omega))
      · split
        · next he =>
          obtain ⟨j, rfl⟩ := Int.eq_ofNat_of_zero_le he
          have hvalue : (n : ℚ) * 10 ^ (j : Int) = (n * 10 ^ j : Nat) := by
            rw [zpow_natCast, Nat.cast_mul, Nat.cast_pow, Nat.cast_ofNat]
          rw [hvalue, Nat.cast_lt]
          exact below_mul_power j
        · next he =>
          obtain ⟨j, rfl⟩ : ∃ j : Nat, e = -j := ⟨(-e).toNat, by omega⟩
          have hten : (0 : ℚ) < 10 ^ j := by positivity
          have hlimit : (overflowLimit : ℚ) * 10 ^ j = (overflowLimit * 10 ^ j : Nat) := by
            rw [Nat.cast_mul, Nat.cast_pow, Nat.cast_ofNat]
          rw [zpow_neg, zpow_natCast, ← div_eq_mul_inv, div_lt_iff₀ hten, hlimit, Nat.cast_lt]
          simp only [neg_neg, Int.toNat_natCast]
          exact below_div_power j

lemma not_isNaN_roundWithAccuracy {s : Sign} {m : Nat} {accuracy : Accuracy} :
    ¬ (roundWithAccuracy .binary64 s m e accuracy).isNaN := by
  rw [roundWithAccuracy]
  dsimp only
  split <;> exact Bool.false_ne_true

lemma not_isNaN_ofScientific (n : Nat) (e : Int) :
    ¬ (UnpackedFloat.ofScientific .binary64 n e).isNaN := by
  rw [UnpackedFloat.ofScientific]
  split
  · nofun
  · split
    · nofun
    · split
      · nofun
      · split <;> exact not_isNaN_roundWithAccuracy

/-! Small numerals are multiplied or divided as floating-point numbers, by a power from a table. -/

def IsTabled : UnpackedFloat → Prop
  | .finite _ m e _ => m < 2 ^ 53 ∧ -52 ≤ e ∧ e ≤ 21
  | .notANumber | .infinity _ | .zero _ => False

instance : DecidablePred IsTabled
  | .finite _ m e _ => inferInstanceAs (Decidable (m < 2 ^ 53 ∧ -52 ≤ e ∧ e ≤ 21))
  | .notANumber | .infinity _ | .zero _ => .isFalse id

lemma isTabled_unpack {x : Float} (hx : x ∈ Float.exactlyRepresentablePowersOfTen) :
    IsTabled x.toModel.unpack := by
  have hall : ∀ x ∈ Float.exactlyRepresentablePowersOfTen, IsTabled x.toModel.unpack := by
    decide +kernel
  exact hall x hx

lemma below_mul_tabled (hu : Below 0 u) (hstored : Stored u) (hp : IsTabled p) :
    Below 971 (mul .binary64 u p) := by
  cases p with
  | notANumber | infinity | zero => exact absurd hp id
  | finite s m e hm =>
    obtain ⟨hmantissa, hlow, hhigh⟩ := hp
    cases hu with
    | zero s => exact .zero _
    | finite t n f hn hf =>
      have hproduct : n * m < 2 ^ 53 * 2 ^ 53 := Nat.mul_lt_mul'' hstored.mantissa_lt hmantissa
      have hpow : 2 ^ 100 ≤ 2 ^ ((971 : Int) - (f + e)).toNat :=
        Nat.pow_le_pow_right (by decide) (by omega)
      rw [below_mul (by decide) (by omega)]
      omega

lemma below_div_tabled (hu : Below 0 u) (hstored : Stored u) (hp : IsTabled p) :
    Below 971 (div .binary64 u p) := by
  cases p with
  | notANumber | infinity | zero => exact absurd hp id
  | finite s m e hm =>
    obtain ⟨-, hlow, hhigh⟩ := hp
    cases hu with
    | zero s => exact .zero _
    | finite t n f hn hf =>
      have hmantissa : n < 2 ^ 53 := hstored.mantissa_lt
      have hpow : 2 ^ 1 ≤ 2 ^ ((971 : Int) - (f - e)).toNat :=
        Nat.pow_le_pow_right (by decide) (by omega)
      rw [below_div (by decide) (by omega)]
      calc 2 * n
        _ < (2 ^ 54 - 1) * 1 * 2 ^ 1 := by omega
        _ ≤ (2 ^ 54 - 1) * m * 2 ^ ((971 : Int) - (f - e)).toNat :=
          Nat.mul_le_mul (Nat.mul_le_mul_left _ hm) hpow

lemma below_toFloat (hn : n < 2 ^ 53) : Below 0 n.toUInt64.toFloat.toModel.unpack := by
  have hunpack : n.toUInt64.toFloat.toModel.unpack =
      unpack .binary64 (pack .binary64 (UnpackedFloat.ofNat .binary64 n.toUInt64.toNat)) := rfl
  have hnat : n.toUInt64.toNat = n := Nat.mod_eq_of_lt (by omega)
  have hbelow : Below 0 (UnpackedFloat.ofNat .binary64 n) := by
    rw [below_ofNat (Int.le_refl 0), Int.toNat_zero]
    omega
  rw [hunpack, hnat]
  exact below_unpack_pack hbelow (by decide) (by decide)

/-! Both ways of reading. -/

structure RoundsTo (x : Float) (q : ℚ) (u : UnpackedFloat) : Prop where
  unpack_eq : x.toModel.unpack = unpack .binary64 (pack .binary64 u)
  number : ¬ u.isNaN
  below_iff : Below 971 u ↔ q < overflowLimit

lemma exists_roundsTo (n : Nat) (e : Int) :
    ∃ u, RoundsTo (Float.ofScientific n (e < 0) e.natAbs) (n * 10 ^ e) u := by
  by_cases hfast : n < 2 ^ 53 ∧ e.natAbs ≤ 22
  · -- far below the limit, so that only the operation has to be followed
    have hconverted := below_toFloat hfast.1
    have hindex : e.natAbs < Float.exactlyRepresentablePowersOfTen.size := Nat.lt_succ_of_le hfast.2
    have hpower : IsTabled Float.exactlyRepresentablePowersOfTen[e.natAbs].toModel.unpack :=
      isTabled_unpack (Array.getElem_mem hindex)
    have hvalue : (n : ℚ) * 10 ^ e < overflowLimit :=
      lt_overflowLimit (w := 16) (by omega) (by omega)
    by_cases he : e < 0
    · have hquotient := below_div_tabled hconverted (stored_unpack _) hpower
      refine ⟨_, ?_, not_isNaN_of_isFinite hquotient.isFinite, iff_of_true hquotient hvalue⟩
      simp only [Float.ofScientific, dif_pos hfast, decide_eq_true he, if_true]
      rfl
    · have hproduct := below_mul_tabled hconverted (stored_unpack _) hpower
      refine ⟨_, ?_, not_isNaN_of_isFinite hproduct.isFinite, iff_of_true hproduct hvalue⟩
      simp only [Float.ofScientific, dif_pos hfast, decide_eq_false he, Bool.false_eq_true,
        if_false]
      rfl
  · have hexponent :
        (if decide (e < 0) then Int.negOfNat e.natAbs else Int.ofNat e.natAbs) = e := by
      simp only [Int.negOfNat_eq, decide_eq_true_eq, Int.ofNat_eq_natCast]
      split <;> omega
    refine ⟨UnpackedFloat.ofScientific .binary64 n e, ?_, not_isNaN_ofScientific n e,
      below_ofScientific n e⟩
    simp only [Float.ofScientific, dif_neg hfast, hexponent]
    rfl

variable {x : Float} {q : ℚ}

lemma RoundsTo.isFinite_iff (h : RoundsTo x q u) : x.isFinite ↔ q < overflowLimit := by
  have hfinite : x.isFinite = x.toModel.unpack.isFinite := rfl
  rw [hfinite, h.unpack_eq, isFinite_unpack_pack, h.below_iff]

lemma RoundsTo.not_isNaN (h : RoundsTo x q u) : ¬ x.isNaN := by
  have hnan : x.isNaN = x.toModel.unpack.isNaN := rfl
  rw [hnan, h.unpack_eq]
  exact not_isNaN_unpack_pack h.number

lemma isFinite_neg (x : Float) : (-x).isFinite ↔ x.isFinite := by
  have hneg : (-x).isFinite =
      (unpack .binary64 (pack .binary64 x.toModel.unpack.neg)).isFinite := rfl
  have hfinite : x.isFinite = x.toModel.unpack.isFinite := rfl
  rw [hneg, hfinite, isFinite_unpack_pack, below_neg]
  exact isFinite_unpack.symm

lemma isNaN_of_isNaN_neg (h : (-x).isNaN) : x.isNaN := by
  have hneg : (-x).isNaN = (unpack .binary64 (pack .binary64 x.toModel.unpack.neg)).isNaN := rfl
  by_contra hx
  have hnumber : ¬ x.toModel.unpack.neg.isNaN := by
    rwa [isNaN_neg]
  exact not_isNaN_unpack_pack hnumber h

lemma isFinite_ofNat (hn : n < 2 ^ 64) : (Float.ofNat n).isFinite := by
  obtain ⟨u, hu⟩ := exists_roundsTo n 0
  exact hu.isFinite_iff.mpr (lt_overflowLimit (w := 20) (by omega) (by decide))

namespace Numeral.Scientific

def value (n : Scientific) : ℚ := n.digits * 10 ^ n.exponent

def Overflows (n : Scientific) : Prop := overflowLimit ≤ n.value

lemma not_overflows (n : Scientific) (hn : n.digits < 10 ^ w) (hw : w + n.exponent ≤ 308) :
    ¬ n.Overflows :=
  not_le.mpr (lt_overflowLimit hn hw)

lemma width_pos (n : Scientific) : 0 < n.width := Nat.length_toDigits_pos

lemma digits_lt (n : Scientific) : n.digits < 10 ^ n.width :=
  (Nat.length_toDigits_le_iff (by decide) n.width_pos).mp (Nat.le_refl _)

lemma le_digits {n : Scientific} (h : n.digits ≠ 0) : 10 ^ (n.width - 1) ≤ n.digits := by
  by_contra hlt
  by_cases hone : n.width = 1
  · rw [hone] at hlt
    omega
  · have hpos := n.width_pos
    have hwidth : n.width ≤ n.width - 1 :=
      (Nat.length_toDigits_le_iff (by decide) (by omega)).mpr (Nat.lt_of_not_le hlt)
    omega

lemma overflows_normalize (n : Scientific) : n.normalize.Overflows ↔ n.Overflows := by
  have hzero : ¬ Overflows ⟨0, 0⟩ := not_overflows (w := 1) _ (by decide) (by decide)
  have hpos := n.width_pos
  simp only [normalize]
  split
  · next hdigits =>
    refine iff_of_false hzero ?_
    rw [Overflows, value, hdigits, Nat.cast_zero, zero_mul, not_le]
    exact zero_lt_overflowLimit
  · next hdigits =>
    split
    · exact iff_of_true (overflowLimit_le (w := 0) (by decide) (by decide))
        (overflowLimit_le (le_digits hdigits) (by omega))
    · split
      · exact iff_of_false hzero (not_overflows n n.digits_lt (by omega))
      · rfl

theorem isFinite_toFloat (n : Scientific) : n.toFloat.isFinite ↔ ¬ n.Overflows := by
  obtain ⟨u, hu⟩ := exists_roundsTo n.normalize.digits n.normalize.exponent
  rw [← overflows_normalize, Overflows, not_le]
  exact hu.isFinite_iff

theorem not_isNaN_toFloat (n : Scientific) : ¬ n.toFloat.isNaN := by
  obtain ⟨u, hu⟩ := exists_roundsTo n.normalize.digits n.normalize.exponent
  exact hu.not_isNaN

end Numeral.Scientific
end Toolpath
