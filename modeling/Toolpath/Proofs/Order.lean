import Mathlib.Algebra.Order.Group.Int
import Mathlib.Algebra.Order.Group.Unbundled.Int
import Mathlib.Data.Prod.Lex
import Mathlib.Order.Compare
import Toolpath.Proofs.Comparison

/-! Floating-point numbers are ordered totally once NaN is left out. -/

namespace Toolpath

open Float.Model (UnpackedFloat)

variable {u v : UnpackedFloat} {x y z : Float}

/-- Where a number stands among all others. NaN, which stands nowhere, is put with the zeros. -/
def rank : UnpackedFloat → ℤ ×ₗ ℤ ×ₗ ℤ
  | .notANumber | .zero _ => toLex (0, toLex (0, 0))
  | .infinity .positive => toLex (2, toLex (0, 0))
  | .infinity .negative => toLex (-2, toLex (0, 0))
  | .finite .positive m e _ => toLex (1, toLex (e, m))
  | .finite .negative m e _ => toLex (-1, toLex (-e, -m))

lemma compare_natCast (m n : ℕ) : compare (m : ℤ) n = compare m n := by
  rw [← cmp_eq_compare, ← cmp_eq_compare]
  exact Int.natCast_strictMono.cmp_map_eq m n

lemma compare_neg (a b : ℤ) : compare (-a) (-b) = (compare a b).swap := by
  rw [← cmp_eq_compare, ← cmp_eq_compare, cmp_swap]
  exact (strictAnti_of_le_iff_le fun _ _ => neg_le_neg_iff.symm).cmp_map_eq a b

lemma compare_unpacked (hu : ¬ u.isNaN) (hv : ¬ v.isNaN) :
    u.compare v = some (compare (rank u) (rank v)) := by
  cases u with
  | notANumber => exact absurd rfl hu
  | infinity s =>
    cases v with
    | notANumber => exact absurd rfl hv
    | infinity t => cases s <;> cases t <;> rfl
    | zero t => cases s <;> rfl
    | finite t n f hn => cases s <;> cases t <;> rfl
  | zero s =>
    cases v with
    | notANumber => exact absurd rfl hv
    | infinity t => cases t <;> rfl
    | zero t => rfl
    | finite t n f hn => cases t <;> rfl
  | finite s m e hm =>
    cases v with
    | notANumber => exact absurd rfl hv
    | infinity t => cases s <;> cases t <;> rfl
    | zero t => cases s <;> rfl
    | finite t n f hn =>
      cases s with
      | positive =>
        cases t with
        | positive =>
          exact congrArg (fun o => some ((compare e f).then o)) (compare_natCast m n).symm
        | negative => rfl
      | negative =>
        cases t with
        | positive => rfl
        | negative =>
          change some ((compare e f).then (compare m n)).swap =
            some ((compare (-e) (-f)).then (compare (-(m : ℤ)) (-n)))
          rw [compare_neg, compare_neg, compare_natCast, Ordering.swap_then]

lemma not_isNaN_of_compare {o : Ordering} (h : u.compare v = some o) :
    ¬ u.isNaN ∧ ¬ v.isNaN := by
  cases u <;> cases v <;> first | exact ⟨Bool.false_ne_true, Bool.false_ne_true⟩ | cases h

lemma not_isNaN_of_le (h : x ≤ y) : ¬ x.isNaN ∧ ¬ y.isNaN := by
  rw [le_iff_unpack, UnpackedFloat.le, Option.any_eq_true] at h
  obtain ⟨o, ho, -⟩ := h
  exact not_isNaN_of_compare ho

lemma float_le_iff_rank (hx : ¬ x.isNaN) (hy : ¬ y.isNaN) :
    x ≤ y ↔ rank x.toModel.unpack ≤ rank y.toModel.unpack := by
  rw [le_iff_unpack, UnpackedFloat.le, compare_unpacked hx hy]
  exact Ordering.ne_gt_iff_isLE.symm.trans compare_le_iff_le

lemma float_lt_iff_rank (hx : ¬ x.isNaN) (hy : ¬ y.isNaN) :
    x < y ↔ rank x.toModel.unpack < rank y.toModel.unpack := by
  rw [lt_iff_unpack, UnpackedFloat.lt, compare_unpacked hx hy, beq_iff_eq, Option.some_inj]
  exact compare_lt_iff_lt

lemma float_le_refl (hx : ¬ x.isNaN) : x ≤ x := (float_le_iff_rank hx hx).mpr (le_refl _)

lemma float_le_trans (hxy : x ≤ y) (hyz : y ≤ z) : x ≤ z := by
  obtain ⟨hx, hy⟩ := not_isNaN_of_le hxy
  have hz := (not_isNaN_of_le hyz).2
  rw [float_le_iff_rank hx hy] at hxy
  rw [float_le_iff_rank hy hz] at hyz
  exact (float_le_iff_rank hx hz).mpr (hxy.trans hyz)

lemma float_le_of_not_lt (hx : ¬ x.isNaN) (hy : ¬ y.isNaN) (h : ¬ x < y) : y ≤ x := by
  rw [float_lt_iff_rank hx hy, not_lt] at h
  exact (float_le_iff_rank hy hx).mpr h

end Toolpath
