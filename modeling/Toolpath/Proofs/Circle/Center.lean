import Mathlib.Analysis.Real.Sqrt
import Mathlib.Analysis.SpecialFunctions.Complex.Arg
import Toolpath.Proofs.Circle.Sweep

/-! Centers of arcs that are given by their radius, over the real numbers: when there is one, on which
side of the chord it lies, and how far the arc turns around it. Angles are those of the complex plane,
and a whole turn is `2 * π`. -/

namespace Toolpath.Circle

section Turn

open Complex (arg)

variable {a b : ℂ}

/-- Twice the signed area between two radii; it is positive where `b` lies to the left of `a`. -/
def cross (a b : ℂ) : ℝ := a.re * b.im - a.im * b.re

noncomputable def turn (a b : ℂ) (clockwise : Bool) : ℝ :=
  sweep (2 * Real.pi) (arg a) (arg b) clockwise false

lemma cross_swap (a b : ℂ) : cross b a = -cross a b := by
  rw [cross, cross]
  ring

lemma arg_mem (a : ℂ) : arg a ∈ Set.Ioc (-(2 * Real.pi / 2)) (2 * Real.pi / 2) := by
  rw [mul_div_cancel_left₀ _ two_ne_zero]
  exact Complex.arg_mem_Ioc a

lemma turn_nonneg (a b : ℂ) : 0 ≤ turn a b false := sweep_nonneg (arg_mem a) (arg_mem b)

lemma turn_lt (a b : ℂ) : turn a b false < 2 * Real.pi := sweep_lt (arg_mem a) (arg_mem b)

lemma turn_eq_zero : turn a b false = 0 ↔ arg a = arg b := sweep_eq_zero (arg_mem a) (arg_mem b)

lemma abs_turn (a b : ℂ) (clockwise : Bool) :
    |turn a b clockwise| = if clockwise then turn b a false else turn a b false :=
  abs_sweep (arg_mem a) (arg_mem b) clockwise

lemma sin_turn (a b : ℂ) : ‖a‖ * ‖b‖ * Real.sin (turn a b false) = cross a b := by
  have hsin : Real.sin (turn a b false) = Real.sin (arg b - arg a) := by
    rw [turn, sweep_counter]
    split
    · exact Real.sin_add_two_pi _
    · rfl
  calc ‖a‖ * ‖b‖ * Real.sin (turn a b false)
    _ = ‖a‖ * Real.cos (arg a) * (‖b‖ * Real.sin (arg b)) -
        ‖a‖ * Real.sin (arg a) * (‖b‖ * Real.cos (arg b)) := by rw [hsin, Real.sin_sub]; ring
    _ = cross a b := by
      rw [Complex.norm_mul_cos_arg, Complex.norm_mul_sin_arg, Complex.norm_mul_cos_arg,
        Complex.norm_mul_sin_arg, cross]

lemma sin_neg_of_pi_lt {x : ℝ} (hlow : Real.pi < x) (hhigh : x < 2 * Real.pi) : Real.sin x < 0 := by
  have hpos := Real.sin_pos_of_pos_of_lt_pi (sub_pos.mpr hlow) (by linarith)
  rw [Real.sin_sub_pi] at hpos
  linarith

lemma turn_le_pi (ha : a ≠ 0) (hb : b ≠ 0) (h : 0 ≤ cross a b) : turn a b false ≤ Real.pi := by
  have hnorm : 0 < ‖a‖ * ‖b‖ := mul_pos (norm_pos_iff.mpr ha) (norm_pos_iff.mpr hb)
  rw [← sin_turn] at h
  by_contra hlt
  exact absurd (sin_neg_of_pi_lt (not_le.mp hlt) (turn_lt a b))
    (not_lt.mpr (nonneg_of_mul_nonneg_right h hnorm))

lemma pi_le_turn (ha : a ≠ 0) (hb : b ≠ 0) (hne : arg a ≠ arg b) (h : cross a b ≤ 0) :
    Real.pi ≤ turn a b false := by
  have hnorm : 0 < ‖a‖ * ‖b‖ := mul_pos (norm_pos_iff.mpr ha) (norm_pos_iff.mpr hb)
  have hpos : 0 < turn a b false :=
    lt_of_le_of_ne (turn_nonneg a b) (Ne.symm (mt turn_eq_zero.mp hne))
  rw [← sin_turn] at h
  by_contra hlt
  have hsin := mul_pos hnorm (Real.sin_pos_of_pos_of_lt_pi hpos (not_le.mp hlt))
  linarith

end Turn

noncomputable instance : Scalar ℝ := ⟨Real.sqrt, abs⟩

variable {tol : Tolerance ℝ} {du dv r : ℝ} {clockwise fixup : Bool}

/-- The point on the bisector of a chord that lies `ratio` chord lengths to the right of it. -/
noncomputable def beside (du dv ratio : ℝ) : ℝ × ℝ := (du / 2 + dv * ratio, dv / 2 - du * ratio)

/-- How many chord lengths a center lies off its chord, on either side. -/
noncomputable def separation (du dv r : ℝ) : ℝ :=
  √(max 0 (r ^ 2 - (du ^ 2 + dv ^ 2) / 4) / (du ^ 2 + dv ^ 2))

/-- To the right of the chord, or to its left where the arc turns away from there. -/
noncomputable def signedSeparation (du dv r : ℝ) (clockwise : Bool) : ℝ :=
  if (clockwise ∧ r < 0) ∨ (¬ clockwise ∧ 0 < r) then -separation du dv r else separation du dv r

noncomputable def halfChord (du dv : ℝ) : ℝ := √(du ^ 2 + dv ^ 2) / 2

lemma sq_halfChord (du dv : ℝ) : halfChord du dv ^ 2 = (du ^ 2 + dv ^ 2) / 4 := by
  rw [halfChord, div_pow, Real.sq_sqrt (by positivity)]
  norm_num

lemma halfChord_nonneg (du dv : ℝ) : 0 ≤ halfChord du dv := by
  rw [halfChord]
  positivity

lemma height_neg_iff : r ^ 2 - (du ^ 2 + dv ^ 2) / 4 < 0 ↔ |r| < halfChord du dv := by
  rw [← sq_halfChord, sub_neg, ← sq_abs r, sq_lt_sq₀ (abs_nonneg r) (halfChord_nonneg du dv)]

lemma height_neg_of_lt (htol : 0 ≤ tol.radius) (h : |r| < (1 - tol.radius) * halfChord du dv) :
    r ^ 2 - (du ^ 2 + dv ^ 2) / 4 < 0 := by
  have hle := mul_nonneg htol (halfChord_nonneg du dv)
  rw [height_neg_iff]
  linarith

lemma center_eq (htol : 0 ≤ tol.radius) (hchord : tol.chord < du ^ 2 + dv ^ 2) :
    center tol du dv r clockwise fixup =
      if |r| < (1 - tol.radius) * halfChord du dv ∧ fixup = false then
        .error (.radiusTooSmall |r| (halfChord du dv))
      else .ok (beside du dv (signedSeparation du dv r clockwise)) := by
  have hrefused : (r ^ 2 - (du ^ 2 + dv ^ 2) / 4 < 0 ∧
      ¬ (halfChord du dv * (1 - tol.radius) ≤ |r| ∨ fixup = true)) ↔
        |r| < (1 - tol.radius) * halfChord du dv ∧ fixup = false := by
    rw [not_or, not_le, mul_comm, Bool.not_eq_true]
    exact ⟨And.right, fun h => ⟨height_neg_of_lt htol h.1, h⟩⟩
  have hheight (x : ℝ) : (if x < 0 then 0 else x) = max 0 x := by
    split
    · next hx => exact (max_eq_left hx.le).symm
    · next hx => exact (max_eq_right (not_lt.mp hx)).symm
  simp only [center, ← pow_two]
  rw [if_neg (not_le.mpr hchord)]
  simp only [hheight]
  exact if_congr hrefused rfl rfl

section Beside

variable (du dv) (ratio : ℝ)

lemma beside_equidistant :
    (du - (beside du dv ratio).1) ^ 2 + (dv - (beside du dv ratio).2) ^ 2 =
      (beside du dv ratio).1 ^ 2 + (beside du dv ratio).2 ^ 2 := by
  rw [beside]
  ring

lemma sq_beside :
    (beside du dv ratio).1 ^ 2 + (beside du dv ratio).2 ^ 2 =
      (du ^ 2 + dv ^ 2) / 4 + (du ^ 2 + dv ^ 2) * ratio ^ 2 := by
  rw [beside]
  ring

lemma side_beside :
    du * (beside du dv ratio).2 - dv * (beside du dv ratio).1 = -((du ^ 2 + dv ^ 2) * ratio) := by
  rw [beside]
  ring

end Beside

lemma separation_nonneg (du dv r : ℝ) : 0 ≤ separation du dv r := Real.sqrt_nonneg _

lemma sq_separation (hchord : 0 < du ^ 2 + dv ^ 2) :
    (du ^ 2 + dv ^ 2) / 4 + (du ^ 2 + dv ^ 2) * separation du dv r ^ 2 =
      max (r ^ 2) ((du ^ 2 + dv ^ 2) / 4) := by
  rw [separation, Real.sq_sqrt (div_nonneg (le_max_left _ _) hchord.le),
    mul_div_cancel₀ _ hchord.ne', ← max_add_add_left, add_zero, add_sub_cancel, max_comm]

lemma sq_signedSeparation (du dv r : ℝ) (clockwise : Bool) :
    signedSeparation du dv r clockwise ^ 2 = separation du dv r ^ 2 := by
  rw [signedSeparation]
  split
  · exact neg_sq _
  · rfl

lemma signedSeparation_nonneg (h : (clockwise ∧ 0 < r) ∨ (¬ clockwise ∧ r < 0)) :
    0 ≤ signedSeparation du dv r clockwise := by
  have hside : ¬ ((clockwise ∧ r < 0) ∨ (¬ clockwise ∧ 0 < r)) := by grind
  rw [signedSeparation, if_neg hside]
  exact separation_nonneg du dv r

lemma signedSeparation_nonpos (h : (clockwise ∧ r < 0) ∨ (¬ clockwise ∧ 0 < r)) :
    signedSeparation du dv r clockwise ≤ 0 := by
  rw [signedSeparation, if_pos h]
  exact neg_nonpos_of_nonneg (separation_nonneg du dv r)

/-! The radii of an arc with center `c`, both seen from the center. -/

def startRadius (c : ℝ × ℝ) : ℂ := ⟨-c.1, -c.2⟩

def targetRadius (du dv : ℝ) (c : ℝ × ℝ) : ℂ := ⟨du - c.1, dv - c.2⟩

variable {c : ℝ × ℝ}

lemma cross_radii (du dv : ℝ) (c : ℝ × ℝ) :
    cross (startRadius c) (targetRadius du dv c) = du * c.2 - dv * c.1 := by
  rw [cross, startRadius, targetRadius]
  ring

/-- The side of the chord decides whether the arc is the shorter or the longer one. -/
structure Centers (du dv r : ℝ) (clockwise : Bool) (c : ℝ × ℝ) : Prop where
  equidistant : (du - c.1) ^ 2 + (dv - c.2) ^ 2 = c.1 ^ 2 + c.2 ^ 2
  radius : c.1 ^ 2 + c.2 ^ 2 = max (r ^ 2) ((du ^ 2 + dv ^ 2) / 4)
  right : (clockwise ∧ 0 < r) ∨ (¬ clockwise ∧ r < 0) → du * c.2 - dv * c.1 ≤ 0
  left : (clockwise ∧ r < 0) ∨ (¬ clockwise ∧ 0 < r) → 0 ≤ du * c.2 - dv * c.1

namespace Centers

lemma startRadius_ne_zero (h : Centers du dv r clockwise c) (hchord : 0 < du ^ 2 + dv ^ 2) :
    startRadius c ≠ 0 := by
  intro hzero
  have hradius := h.radius
  have hu : c.1 = 0 := neg_eq_zero.mp (congrArg Complex.re hzero)
  have hv : c.2 = 0 := neg_eq_zero.mp (congrArg Complex.im hzero)
  have hle := le_max_right (r ^ 2) ((du ^ 2 + dv ^ 2) / 4)
  rw [hu, hv] at hradius
  linarith

lemma norm_targetRadius (h : Centers du dv r clockwise c) :
    ‖targetRadius du dv c‖ = ‖startRadius c‖ := by
  have hsq : ‖targetRadius du dv c‖ ^ 2 = ‖startRadius c‖ ^ 2 := by
    rw [Complex.sq_norm, Complex.sq_norm, Complex.normSq_apply, Complex.normSq_apply, targetRadius,
      startRadius]
    linarith [h.equidistant]
  exact (pow_left_inj₀ (norm_nonneg _) (norm_nonneg _) two_ne_zero).mp hsq

lemma targetRadius_ne_zero (h : Centers du dv r clockwise c) (hchord : 0 < du ^ 2 + dv ^ 2) :
    targetRadius du dv c ≠ 0 := by
  rw [← norm_ne_zero_iff, h.norm_targetRadius, norm_ne_zero_iff]
  exact h.startRadius_ne_zero hchord

lemma arg_ne (h : Centers du dv r clockwise c) (hchord : 0 < du ^ 2 + dv ^ 2) :
    Complex.arg (startRadius c) ≠ Complex.arg (targetRadius du dv c) := by
  intro harg
  have heq := Complex.ext_norm_arg h.norm_targetRadius harg.symm
  have hu : du - c.1 = -c.1 := congrArg Complex.re heq
  have hv : dv - c.2 = -c.2 := congrArg Complex.im heq
  have hdu : du = 0 := by linarith
  have hdv : dv = 0 := by linarith
  rw [hdu, hdv] at hchord
  norm_num at hchord

lemma abs_turn (h : Centers du dv r clockwise c) (hchord : 0 < du ^ 2 + dv ^ 2) :
    (0 < r → |turn (startRadius c) (targetRadius du dv c) clockwise| ≤ Real.pi) ∧
      (r < 0 → Real.pi ≤ |turn (startRadius c) (targetRadius du dv c) clockwise|) := by
  have hstart := h.startRadius_ne_zero hchord
  have htarget := h.targetRadius_ne_zero hchord
  have hne := h.arg_ne hchord
  have hright := h.right
  have hleft := h.left
  rw [← cross_radii] at hright hleft
  rw [Circle.abs_turn]
  cases clockwise with
  | false =>
    exact ⟨fun hr => turn_le_pi hstart htarget (hleft (.inr ⟨Bool.false_ne_true, hr⟩)),
      fun hr => pi_le_turn hstart htarget hne (hright (.inr ⟨Bool.false_ne_true, hr⟩))⟩
  | true =>
    -- clockwise the radii change places, and so do the sides
    have hswap := cross_swap (startRadius c) (targetRadius du dv c)
    refine ⟨fun hr => turn_le_pi htarget hstart ?_, fun hr => pi_le_turn htarget hstart hne.symm ?_⟩
    · have hside := hright (.inl ⟨rfl, hr⟩)
      linarith
    · have hside := hleft (.inl ⟨rfl, hr⟩)
      linarith

end Centers

lemma centers_beside (hchord : 0 < du ^ 2 + dv ^ 2) (r : ℝ) (clockwise : Bool) :
    Centers du dv r clockwise (beside du dv (signedSeparation du dv r clockwise)) where
  equidistant := beside_equidistant du dv _
  radius := by rw [sq_beside, sq_signedSeparation, sq_separation hchord]
  right h := by
    have hsign : 0 ≤ signedSeparation du dv r clockwise := signedSeparation_nonneg h
    have hside := mul_nonneg hchord.le hsign
    rw [side_beside]
    linarith
  left h := by
    have hsign : signedSeparation du dv r clockwise ≤ 0 := signedSeparation_nonpos h
    have hside := mul_nonpos_of_nonneg_of_nonpos hchord.le hsign
    rw [side_beside]
    linarith

theorem center_of_radius (hchord : 0 ≤ tol.chord) (hradius : 0 ≤ tol.radius)
    (h : tol.chord < du ^ 2 + dv ^ 2) (r : ℝ) (clockwise fixup : Bool) :
    (∀ e, center tol du dv r clockwise fixup = .error e ↔
      (|r| < (1 - tol.radius) * halfChord du dv ∧ fixup = false) ∧
        e = .radiusTooSmall |r| (halfChord du dv)) ∧
    ∀ c, center tol du dv r clockwise fixup = .ok c →
      Centers du dv r clockwise c ∧
      (0 < r → |turn (startRadius c) (targetRadius du dv c) clockwise| ≤ Real.pi) ∧
      (r < 0 → Real.pi ≤ |turn (startRadius c) (targetRadius du dv c) clockwise|) := by
  rw [center_eq hradius h]
  split
  · next hrefused =>
    refine ⟨fun e => ?_, nofun⟩
    rw [and_iff_right hrefused, Except.error.injEq]
    exact eq_comm
  · next hrefused =>
    refine ⟨fun e => iff_of_false nofun fun he => hrefused he.1, fun c hc => ?_⟩
    cases hc
    have hpos := hchord.trans_lt h
    have hcenter := centers_beside hpos r clockwise
    exact ⟨hcenter, hcenter.abs_turn hpos⟩

lemma halfChord_six_eight : halfChord 6 8 = 5 := by
  have hchord : (6 : ℝ) ^ 2 + 8 ^ 2 = 10 ^ 2 := by norm_num
  rw [halfChord, hchord, Real.sqrt_sq (by norm_num)]
  norm_num

theorem center_of_radius_long_and_short :
    let tol : Tolerance ℝ := ⟨1 / 2 ^ 52, 1 / 1000⟩
    0 ≤ tol.chord ∧ 0 ≤ tol.radius ∧ tol.chord < 6 ^ 2 + 8 ^ 2 ∧
      (∃ c, center tol 6 8 (-13) true false = .ok c ∧ c.1 ^ 2 + c.2 ^ 2 = 169 ∧
        0 ≤ 6 * c.2 - 8 * c.1 ∧ Real.pi ≤ |turn (startRadius c) (targetRadius 6 8 c) true|) ∧
      center tol 6 8 2 true false = .error (.radiusTooSmall 2 5) := by
  intro tol
  have hchord : 0 ≤ tol.chord := by norm_num [tol]
  have hradius : 0 ≤ tol.radius := by norm_num [tol]
  have hspan : tol.chord < 6 ^ 2 + 8 ^ 2 := by norm_num [tol]
  obtain ⟨hfails, hcenters⟩ := center_of_radius hchord hradius hspan (-13) true false
  obtain ⟨hshort, -⟩ := center_of_radius hchord hradius hspan 2 true false
  rw [halfChord_six_eight] at hfails hshort
  refine ⟨hchord, hradius, hspan, ?_, (hshort _).mpr ⟨⟨?_, rfl⟩, ?_⟩⟩
  · cases hc : center tol 6 8 (-13) true false with
    | error e =>
      obtain ⟨⟨hlt, -⟩, -⟩ := (hfails e).mp hc
      norm_num [tol] at hlt
    | ok c =>
      obtain ⟨hcenter, -, hlong⟩ := hcenters c hc
      refine ⟨c, rfl, ?_, hcenter.left (.inl ⟨rfl, by norm_num⟩), hlong (by norm_num)⟩
      rw [hcenter.radius]
      norm_num
  · norm_num [tol]
  · norm_num

end Toolpath.Circle
