import Mathlib.Tactic.Lemma
import Toolpath.Color

/-! How floating-point numbers compare with zero and with themselves. -/

namespace Toolpath

open Float.Model (UnpackedFloat)

lemma lt_iff_unpack {x y : Float} : x < y ↔ x.toModel.unpack.lt y.toModel.unpack :=
  decide_eq_true_iff

lemma le_iff_unpack {x y : Float} : x ≤ y ↔ x.toModel.unpack.le y.toModel.unpack :=
  decide_eq_true_iff

lemma float_le_of_lt {x y : Float} (h : x < y) : x ≤ y := by
  rw [lt_iff_unpack] at h
  rw [le_iff_unpack, UnpackedFloat.le, eq_of_beq h]
  rfl

lemma zero_lt_iff_not_le {x : Float} : 0.0 < x ↔ ¬ (x.isNaN ∨ x ≤ 0.0) := by
  have hzero : (0.0 : Float).toModel.unpack = .zero .positive := by rfl
  have hnan : x.isNaN = x.toModel.unpack.isNaN := rfl
  rw [lt_iff_unpack, le_iff_unpack, hzero, hnan]
  cases x.toModel.unpack with
  | infinity sign => cases sign <;> decide
  | notANumber => decide
  | zero sign => cases sign <;> decide
  | finite sign m e hm =>
    cases sign with
    | positive =>
      refine iff_of_true rfl ?_
      rintro (h | h)
      · cases h
      · cases h
    | negative =>
      refine iff_of_false ?_ (fun hnot => hnot (Or.inr rfl))
      intro h
      cases h

lemma compare_unpacked_self (u : UnpackedFloat) :
    u.compare u = if u.isNaN then none else some .eq := by
  cases u with
  | notANumber => rfl
  | infinity sign => cases sign <;> rfl
  | zero sign => rfl
  | finite sign m e hm =>
    have hnumber : (UnpackedFloat.finite sign m e hm).isNaN = false := rfl
    have heq : (compare e e).then (compare m m) = .eq := by simp
    rw [hnumber, if_neg Bool.false_ne_true]
    cases sign with
    | positive => exact congrArg some heq
    | negative => exact congrArg (fun o => some o.swap) heq

lemma not_lt_self (x : Float) : ¬ x < x := by
  rw [lt_iff_unpack, UnpackedFloat.lt, compare_unpacked_self]
  split <;> decide

lemma beq_self {x : Float32} (h : ¬ x.isNaN) : x.beq x := by
  have hbeq : x.beq x = (x.toModel.unpack.compare x.toModel.unpack == some .eq) := rfl
  have hnumber : ¬ x.toModel.unpack.isNaN := h
  rw [hbeq, compare_unpacked_self, if_neg hnumber]
  rfl

namespace Color

structure IsNumeric (c : Color) : Prop where
  r : ¬ c.r.isNaN
  g : ¬ c.g.isNaN
  b : ¬ c.b.isNaN
  a : ¬ c.a.isNaN

instance (c : Color) : Decidable c.IsNumeric :=
  decidable_of_iff (¬ c.r.isNaN ∧ ¬ c.g.isNaN ∧ ¬ c.b.isNaN ∧ ¬ c.a.isNaN)
    ⟨fun ⟨r, g, b, a⟩ => ⟨r, g, b, a⟩, fun ⟨r, g, b, a⟩ => ⟨r, g, b, a⟩⟩

lemma IsNumeric.agrees_self {c : Color} (h : c.IsNumeric) : c.agrees c := by
  rw [agrees, beq_self h.r, beq_self h.g, beq_self h.b, beq_self h.a]
  rfl

end Color
end Toolpath
