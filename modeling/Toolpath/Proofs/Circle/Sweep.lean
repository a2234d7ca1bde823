import Mathlib.Algebra.Order.Field.Basic
import Mathlib.Algebra.Order.Ring.Rat
import Mathlib.Tactic.Linarith
import Mathlib.Tactic.Lemma
import Mathlib.Tactic.NormNum
import Toolpath.Geometry.Circle

/-! How far it is from one angle to another, counter-clockwise. Clockwise is the same way back, and both
ways together make a whole turn. -/

namespace Toolpath.Circle

variable {K : Type} [Field K] [LinearOrder K]

lemma sweep_clockwise (tau start stop : K) :
    sweep tau start stop true false = -sweep tau stop start false false := rfl

variable [IsStrictOrderedRing K] {tau start stop : K}

lemma sweep_counter (tau start stop : K) :
    sweep tau start stop false false =
      if stop < start then stop - start + tau else stop - start := by
  simp only [sweep, Bool.false_eq_true, if_false, sub_neg]

/-! The angles of points reach over a whole turn. -/

lemma pos_of_mem_turn (h : start ∈ Set.Ioc (-(tau / 2)) (tau / 2)) : 0 < tau := by
  obtain ⟨h, h'⟩ := h
  linarith

section

variable (hstart : start ∈ Set.Ioc (-(tau / 2)) (tau / 2))
  (hstop : stop ∈ Set.Ioc (-(tau / 2)) (tau / 2))

include hstart hstop

lemma sweep_nonneg : 0 ≤ sweep tau start stop false false := by
  obtain ⟨hstart, hstart'⟩ := hstart
  obtain ⟨hstop, hstop'⟩ := hstop
  rw [sweep_counter]
  split <;> linarith

lemma sweep_lt : sweep tau start stop false false < tau := by
  obtain ⟨hstart, hstart'⟩ := hstart
  obtain ⟨hstop, hstop'⟩ := hstop
  rw [sweep_counter]
  split <;> linarith

lemma sweep_eq_zero : sweep tau start stop false false = 0 ↔ start = stop := by
  obtain ⟨hstart, hstart'⟩ := hstart
  obtain ⟨hstop, hstop'⟩ := hstop
  rw [sweep_counter]
  split <;> constructor <;> intro h <;> linarith

lemma abs_sweep (clockwise : Bool) :
    |sweep tau start stop clockwise false| =
      if clockwise then sweep tau stop start false false else sweep tau start stop false false := by
  cases clockwise with
  | true => rw [sweep_clockwise, abs_neg, abs_of_nonneg (sweep_nonneg hstop hstart), if_pos rfl]
  | false => rw [abs_of_nonneg (sweep_nonneg hstart hstop), if_neg Bool.false_ne_true]

lemma abs_sweep_lt (clockwise : Bool) : |sweep tau start stop clockwise false| < tau := by
  rw [abs_sweep hstart hstop]
  split
  · exact sweep_lt hstop hstart
  · exact sweep_lt hstart hstop

lemma abs_sweep_eq_zero (clockwise : Bool) :
    |sweep tau start stop clockwise false| = 0 ↔ start = stop := by
  rw [abs_sweep hstart hstop]
  split
  · rw [sweep_eq_zero hstop hstart, eq_comm]
  · exact sweep_eq_zero hstart hstop

end

lemma add_sweep_counter (tau start stop : K) :
    start + sweep tau start stop false false = stop ∨
      start + sweep tau start stop false false = stop + tau := by
  rw [sweep_counter]
  split
  · right
    linarith
  · left
    linarith

lemma add_sweep_sub (tau start stop : K) (clockwise : Bool) :
    start + sweep tau start stop clockwise false - stop ∈ ({-tau, 0, tau} : Set K) := by
  simp only [Set.mem_insert_iff, Set.mem_singleton_iff]
  cases clockwise with
  | false =>
    rcases add_sweep_counter tau start stop with h | h
    · exact .inr (.inl (by linarith))
    · exact .inr (.inr (by linarith))
  | true =>
    rw [sweep_clockwise]
    rcases add_sweep_counter tau stop start with h | h
    · exact .inr (.inl (by linarith))
    · exact .inl (by linarith)

lemma sweep_add_sweep (h : start ≠ stop) :
    sweep tau start stop false false + sweep tau stop start false false = tau := by
  rw [sweep_counter, sweep_counter]
  rcases lt_or_gt_of_ne h with h | h
  · rw [if_neg h.not_gt, if_pos h]
    linarith
  · rw [if_pos h, if_neg h.not_gt]
    linarith

theorem sweep_directed (hstart : start ∈ Set.Ioc (-(tau / 2)) (tau / 2))
    (hstop : stop ∈ Set.Ioc (-(tau / 2)) (tau / 2)) :
    0 ≤ sweep tau start stop false false ∧ sweep tau start stop true false ≤ 0 ∧
    (∀ clockwise, |sweep tau start stop clockwise false| < tau ∧
      (|sweep tau start stop clockwise false| = 0 ↔ start = stop) ∧
      start + sweep tau start stop clockwise false - stop ∈ ({-tau, 0, tau} : Set K)) ∧
    (start ≠ stop → sweep tau start stop false false - sweep tau start stop true false = tau) ∧
    ∀ clockwise, |sweep tau start stop clockwise true| = tau ∧
      if clockwise then sweep tau start stop clockwise true < 0
      else 0 < sweep tau start stop clockwise true := by
  have htau : 0 < tau := pos_of_mem_turn hstart
  have hback : 0 ≤ sweep tau stop start false false := sweep_nonneg hstop hstart
  refine ⟨sweep_nonneg hstart hstop, ?_, fun clockwise => ⟨abs_sweep_lt hstart hstop clockwise,
    abs_sweep_eq_zero hstart hstop clockwise, add_sweep_sub tau start stop clockwise⟩, fun h => ?_,
    fun clockwise => ?_⟩
  · rw [sweep_clockwise]
    exact neg_nonpos.mpr hback
  · rw [sweep_clockwise, sub_neg_eq_add, sweep_add_sweep h]
  · cases clockwise with
    | false => exact ⟨abs_of_pos htau, htau⟩
    | true => exact ⟨(abs_neg tau).trans (abs_of_pos htau), neg_neg_of_pos htau⟩

theorem sweep_directed_from_cut :
    (2 : ℚ) ∈ Set.Ioc (-(4 / 2)) (4 / 2 : ℚ) ∧ (-1 : ℚ) ∈ Set.Ioc (-(4 / 2)) (4 / 2 : ℚ) ∧
      sweep (4 : ℚ) 2 (-1) false false = 1 ∧ sweep (4 : ℚ) 2 (-1) true false = -3 ∧
      |sweep (4 : ℚ) 2 (-1) true true| = 4 := by
  have hstart : (2 : ℚ) ∈ Set.Ioc (-(4 / 2)) (4 / 2 : ℚ) := by norm_num
  have hstop : (-1 : ℚ) ∈ Set.Ioc (-(4 / 2)) (4 / 2 : ℚ) := by norm_num
  have hcounter : sweep (4 : ℚ) 2 (-1) false false = 1 := by
    rw [sweep_counter]
    norm_num
  obtain ⟨-, -, -, hways, hfull⟩ := sweep_directed hstart hstop
  have hturn := hways (by norm_num)
  exact ⟨hstart, hstop, hcounter, by linarith, (hfull true).1⟩

end Toolpath.Circle
