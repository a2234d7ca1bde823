import Mathlib
import Toolpath.Proofs.Comparison

/-! Numbers keep their order when they are subtracted: however close two of them are, their
difference is not rounded to zero. -/

namespace Toolpath

open Float.Model (Format UnpackedFloat totalExponent)
open Float.Model.UnpackedFloat

/-- Mantissas as they are stored, with a bit to spare at the least exponent only. -/
structure Canonical (m : Nat) (e : Int) : Prop where
  mantissa_lt : m < 2 ^ 53
  le_exponent : -1074 ≤ e
  full : e = -1074 ∨ 2 ^ 52 ≤ m

def Stored : UnpackedFloat → Prop
  | .finite _ m e _ => Canonical m e
  | .notANumber | .infinity _ | .zero _ => True

lemma toNat_implicit_append (fraction : BitVec 52) :
    (1#1 ++ fraction).toNat = 2 ^ 52 + fraction.toNat := by
  rw [BitVec.toNat_append, ← Nat.shiftLeft_add_eq_or_of_lt fraction.isLt]
  rfl

lemma canonical_of_unpack {b : BitVec Format.binary64.numBits} {s : Sign} {m : Nat} {e : Int}
    {hm : 0 < m} (h : unpack .binary64 b = .finite s m e hm) : Canonical m e := by
  have hfraction : (unpackMantissa b).toNat < 2 ^ 52 := (unpackMantissa b).isLt
  have hbias : Format.binary64.exponentBias = 1023 := by decide
  unfold unpack at h
  dsimp only at h
  rw [hbias] at h
  split at h
  · split at h <;> cases h
  · split at h
    · next hzero =>
      split at h
      · cases h
      · rw [hzero] at h
        cases h
        exact ⟨Nat.lt_trans hfraction (by decide), by decide, Or.inl (by decide)⟩
    · next hne =>
      have hexponent : 0 < (unpackExponent b).toNat := BitVec.toNat_pos_of_ne_zero hne
      have hmantissa := toNat_implicit_append (unpackMantissa b)
      cases h
      refine ⟨?_, ?_, Or.inr ?_⟩
      · rw [hmantissa]
        omega
      · dsimp only at hexponent ⊢
        omega
      · rw [hmantissa]
        omega

lemma stored_unpack (b : BitVec Format.binary64.numBits) : Stored (unpack .binary64 b) := by
  cases h : unpack .binary64 b with
  | finite s m e hm => exact canonical_of_unpack h
  | notANumber | infinity | zero => trivial

lemma Canonical.shiftLeft_lt {m n : Nat} {e f : Int} (hm : Canonical m e) (hn : Canonical n f)
    (h : (compare e f).then (compare m n) = .lt) :
    m <<< (e - min e f).toNat < n <<< (f - min e f).toNat := by
  rw [Ordering.then_eq_lt, Std.compare_eq_lt, Std.compare_eq_iff_eq, Std.compare_eq_lt] at h
  rcases h with hlt | ⟨rfl, hlt⟩
  · -- the greater exponent is not the least one, so its mantissa has all its bits
    have hbound := hm.mantissa_lt
    have hleast := hm.le_exponent
    have hfull : 2 ^ 52 ≤ n := hn.full.resolve_left (by omega)
    have hpow : 2 ^ 1 ≤ 2 ^ (f - e).toNat := Nat.pow_le_pow_right (by decide) (by omega)
    have hmul := Nat.mul_le_mul hfull hpow
    rw [Int.min_eq_left (Int.le_of_lt hlt), Int.sub_self, Nat.shiftLeft_eq, Nat.shiftLeft_eq]
    simp only [Int.toNat_zero, Nat.pow_zero, Nat.mul_one]
    omega
  · simpa using hlt

/-! Rounding. -/

/-- Numbers above zero that packing does not lose. -/
def Above : UnpackedFloat → Prop
  | .infinity s => s = .positive
  | .finite s m e _ => s = .positive ∧ m < 2 ^ 53 ∧ -1074 ≤ e
  | .notANumber | .zero _ => False

lemma mantissa_shiftRight (m : ExtendedMantissa) (n : Nat) :
    (m >>> n).mantissa = m.mantissa / 2 ^ n := by
  induction n with
  | zero => exact (Nat.div_one _).symm
  | succ n ih =>
    have hstep : (m >>> (n + 1)).mantissa = (m >>> n).mantissa / 2 := rfl
    rw [hstep, ih, Nat.div_div_eq_div_mul, Nat.pow_succ]

lemma le_roundedMantissa (m : ExtendedMantissa) : m.mantissa ≤ m.roundedMantissa := by
  rw [ExtendedMantissa.roundedMantissa]
  cases m.accuracy with
  | exact => exact Nat.le_refl _
  | inexact o =>
    cases o with
    | lt => exact Nat.le_refl _
    | eq | gt => exact Nat.le_add_right _ _

lemma targetExponent_binary64 (e : Int) :
    Format.binary64.targetExponent e = max (e - 53) (-1074) := rfl

lemma shiftToTargetExponent_bounds {m : Nat} {e : Int} (hm : 0 < m) (he : -1074 ≤ e) :
    let r := shiftToTargetExponent .binary64 m e .exact
    0 < r.1.mantissa ∧ r.1.mantissa < 2 ^ 53 ∧ -1074 ≤ r.2 := by
  have hlow := Nat.log2_self_le (Nat.ne_of_gt hm)
  have hhigh := @Nat.lt_log2_self m
  have hmantissa : (ExtendedMantissa.ofMantissaAndAccuracy m .exact).mantissa = m := rfl
  rw [shiftToTargetExponent, shiftToExponent]
  dsimp only
  rw [mantissa_shiftRight, targetExponent_binary64, totalExponent, hmantissa]
  generalize m.log2 = l at *
  -- all bits but the 53 highest go, or none
  have hshift : (max ((l : Int) + 1 + e - 53) (-1074) - e).toNat = l - 52 ∨
      (max ((l : Int) + 1 + e - 53) (-1074) - e).toNat = 0 ∧ l ≤ 52 := by omega
  refine ⟨Nat.div_pos (Nat.le_trans ?_ hlow) (Nat.two_pow_pos _), ?_, by omega⟩
  · exact Nat.pow_le_pow_right (by decide) (by omega)
  · rw [Nat.div_lt_iff_lt_mul (Nat.two_pow_pos _), ← Nat.pow_add]
    exact Nat.lt_of_lt_of_le hhigh (Nat.pow_le_pow_right (by decide) (by omega))

lemma above_roundWithAccuracy {m : Nat} {e : Int} (hm : 0 < m) (he : -1074 ≤ e) :
    Above (roundWithAccuracy .binary64 .positive m e .exact) := by
  obtain ⟨hshifted, -, hexponent⟩ := shiftToTargetExponent_bounds hm he
  rw [roundWithAccuracy]
  dsimp only
  generalize shiftToTargetExponent .binary64 m e .exact = shifted at *
  have hrounded := Nat.lt_of_lt_of_le hshifted (le_roundedMantissa shifted.1)
  obtain ⟨hpos, hlt, hleast⟩ := shiftToTargetExponent_bounds hrounded hexponent
  rw [dif_neg (Nat.ne_of_gt hpos)]
  exact ⟨rfl, hlt, hleast⟩

lemma above_round {m : Nat} {e : Int} (hm : 0 < m) (he : -1074 ≤ e) :
    Above (UnpackedFloat.round .binary64 .positive m e) := by
  rw [UnpackedFloat.round, decreaseExponent]
  refine above_roundWithAccuracy ?_ ?_
  · rw [Nat.shiftLeft_eq]
    exact Nat.mul_pos hm (Nat.two_pow_pos _)
  · rw [targetExponent_binary64]
    omega

lemma above_normalize {m e : Int} {zeroSign : Sign} (hm : 0 < m) (he : -1074 ≤ e) :
    Above (UnpackedFloat.normalize .binary64 m e zeroSign) := by
  have hcompare : compare m 0 = .gt := Std.compare_eq_gt.mpr hm
  rw [UnpackedFloat.normalize, hcompare]
  exact above_round (by omega) he

/-! Subtraction. -/

lemma above_sub_finite {s t : Sign} {m n : Nat} {e f : Int} {hm : 0 < m} {hn : 0 < n}
    (hx : Canonical m e) (hy : Canonical n f)
    (h : UnpackedFloat.lt (.finite s m e hm) (.finite t n f hn)) :
    Above (sub .binary64 (.finite t n f hn) (.finite s m e hm)) := by
  have hcompare := eq_of_beq h
  have hleast : -1074 ≤ min f e := Int.le_min.mpr ⟨hy.le_exponent, hx.le_exponent⟩
  rw [sub]
  refine above_normalize ?_ hleast
  cases s with
  | positive =>
    cases t with
    | positive =>
      have hlt := hx.shiftLeft_lt hy (Option.some.inj hcompare)
      rw [Int.min_comm] at hlt
      dsimp only [Sign.apply, decreaseExponent]
      omega
    | negative => cases hcompare
  | negative =>
    cases t with
    | positive =>
      have hpos : 0 < n <<< (f - min f e).toNat := by
        rw [Nat.shiftLeft_eq]
        exact Nat.mul_pos hn (Nat.two_pow_pos _)
      dsimp only [Sign.apply, decreaseExponent]
      generalize n <<< (f - min f e).toNat = n' at *
      generalize m <<< (e - min f e).toNat = m'
      omega
    | negative =>
      have hswap : ((compare e f).then (compare m n)).swap = .lt := Option.some.inj hcompare
      rw [Ordering.swap_then, ← Std.OrientedCmp.eq_swap, ← Std.OrientedCmp.eq_swap] at hswap
      have hlt := hy.shiftLeft_lt hx hswap
      dsimp only [Sign.apply, decreaseExponent]
      omega

lemma above_sub {x y : UnpackedFloat} (hx : Stored x) (hy : Stored y) (h : x.lt y) :
    Above (sub .binary64 y x) := by
  cases x with
  | notANumber => cases h
  | infinity s =>
    cases s with
    | positive =>
      cases y with
      | infinity t => cases t <;> cases h
      | notANumber | zero | finite => cases h
    | negative =>
      cases y with
      | infinity t => cases t <;> trivial
      | notANumber => cases h
      | zero | finite => rfl
  | zero s =>
    cases y with
    | infinity t => cases t <;> trivial
    | notANumber | zero => cases h
    | finite t n f hn =>
      cases t with
      | positive => exact ⟨rfl, hy.mantissa_lt, hy.le_exponent⟩
      | negative => cases h
  | finite s m e hm =>
    cases y with
    | infinity t => cases s <;> cases t <;> trivial
    | notANumber => cases h
    | zero t =>
      cases s with
      | positive => cases h
      | negative => exact ⟨rfl, hx.mantissa_lt, hx.le_exponent⟩
    | finite t n f hn => exact above_sub_finite hx hy h

/-! Packing. -/

lemma zero_lt_unpack {spec : Format} {b : BitVec spec.numBits} (hsign : unpackSign b = 0#1)
    (hzero : unpackExponent b ≠ 0#_ ∨ unpackMantissa b ≠ 0#_)
    (hnumber : unpackExponent b ≠ -1#_ ∨ unpackMantissa b = 0#_) :
    UnpackedFloat.lt (.zero .positive) (unpack spec b) := by
  have hpositive : Sign.ofBitVec 0#1 = .positive := rfl
  unfold unpack
  dsimp only
  rw [hsign, hpositive]
  split
  · next he =>
    rw [if_pos (hnumber.resolve_left (not_not_intro he))]
    rfl
  · split
    · next he =>
      rw [dif_neg (hzero.resolve_left (not_not_intro he))]
      rfl
    · rfl

lemma zero_lt_unpack_packComponents {e : BitVec 11} {m : BitVec 52} (hzero : e ≠ 0#11 ∨ m ≠ 0#52)
    (hnumber : e ≠ -1#11 ∨ m = 0#52) :
    UnpackedFloat.lt (.zero .positive)
      (unpack .binary64 (packComponents .binary64 .positive e m)) := by
  refine zero_lt_unpack (unpackSign_packComponents ..) ?_ ?_
  · rw [unpackExponent_packComponents, unpackMantissa_packComponents]
    exact hzero
  · rw [unpackExponent_packComponents, unpackMantissa_packComponents]
    exact hnumber

lemma ofNat_ne_ofNat {w n k : Nat} (hn : n < 2 ^ w) (hk : k < 2 ^ w) (h : n ≠ k) :
    BitVec.ofNat w n ≠ BitVec.ofNat w k := by
  intro heq
  have hmod := congrArg BitVec.toNat heq
  rw [BitVec.toNat_ofNat, BitVec.toNat_ofNat, Nat.mod_eq_of_lt hn, Nat.mod_eq_of_lt hk] at hmod
  exact h hmod

lemma zero_lt_unpack_pack {u : UnpackedFloat} (h : Above u) :
    UnpackedFloat.lt (.zero .positive) (unpack .binary64 (pack .binary64 u)) := by
  have hinfinity := @zero_lt_unpack_packComponents (-1#11) 0#52 (by decide) (by decide)
  cases u with
  | notANumber => cases h
  | zero s => cases h
  | infinity s =>
    obtain rfl : s = .positive := h
    exact hinfinity
  | finite s m e hm =>
    obtain ⟨rfl, hm53, he⟩ := h
    have hbias : Format.binary64.exponentBias = 1023 := by decide
    have hbits : Format.binary64.mantissaBits = 53 := rfl
    delta pack
    dsimp only
    rw [hbias, hbits]
    split
    · exact hinfinity
    · split
      · refine zero_lt_unpack_packComponents (Or.inl ?_) (Or.inl ?_)
        · exact ofNat_ne_ofNat (by omega) (by decide) (by omega)
        · exact ofNat_ne_ofNat (k := 2047) (by omega) (by decide) (by omega)
      · next hlog =>
        -- without its highest bit the mantissa is stored whole
        have hlt := (Nat.log2_lt (Nat.ne_of_gt hm)).mpr hm53
        have hm52 : m < 2 ^ 52 := (Nat.log2_lt (Nat.ne_of_gt hm)).mp (by omega)
        exact zero_lt_unpack_packComponents
          (Or.inr (ofNat_ne_ofNat hm52 (by decide) (Nat.ne_of_gt hm))) (Or.inl (by decide))

lemma zero_lt_sub {x y : Float} (h : x < y) : 0.0 < y - x := by
  have hzero : (0.0 : Float).toModel.unpack = .zero .positive := by rfl
  have hsub : (y - x).toModel.unpack =
      unpack .binary64 (pack .binary64 (sub .binary64 y.toModel.unpack x.toModel.unpack)) := rfl
  rw [lt_iff_unpack] at h ⊢
  rw [hzero, hsub]
  exact zero_lt_unpack_pack (above_sub (stored_unpack _) (stored_unpack _) h)

end Toolpath
