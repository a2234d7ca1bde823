import Mathlib.Data.List.Basic
import Mathlib.Data.List.Nodup
import Mathlib.Data.List.Perm.Basic
import Mathlib.Tactic.Lemma
import Toolpath.Playback.Basic
import Toolpath.Proofs.Fill

/-! A tick counts down every highlight, however often its position is listed. -/

namespace Toolpath
namespace RevealState

@[simp] lemma isRevealed_countDown (s : RevealState) : s.countDown.isRevealed = s.isRevealed := by
  cases s with
  | highlight n =>
    rw [countDown]
    split <;> rfl
  | hidden | lookAhead | complete => rfl

lemma countDown_of_not_isHighlight {s : RevealState} (h : s.isHighlight = false) :
    s.countDown = s := by
  cases s with
  | highlight n => cases h
  | hidden | lookAhead | complete => rfl

lemma isHighlight_of_countDown {s : RevealState} (h : s.countDown.isHighlight) : s.isHighlight := by
  cases s with
  | highlight n => rfl
  | hidden | lookAhead | complete => exact h

end RevealState

namespace Playback

@[simp] lemma mem_dropRepeats {a : Nat} (is : List Nat) : a ∈ dropRepeats is ↔ a ∈ is := by
  fun_induction dropRepeats is with
  | case1 => rfl
  | case2 => rfl
  | case3 i rest ih => simp [ih]
  | case4 i j rest h ih => simp [ih]

lemma pairwise_dropRepeats {is : List Nat} (h : is.Pairwise (· ≤ ·)) :
    (dropRepeats is).Pairwise (· < ·) := by
  fun_induction dropRepeats is with
  | case1 => exact List.Pairwise.nil
  | case2 => simp
  | case3 i rest ih => exact ih (List.pairwise_cons.mp h).2
  | case4 i j rest hij ih =>
    obtain ⟨hi, ht⟩ := List.pairwise_cons.mp h
    refine List.pairwise_cons.mpr ⟨?_, ih ht⟩
    intro k hk
    have hj := hi j List.mem_cons_self
    rcases List.mem_cons.mp ((mem_dropRepeats _).mp hk) with rfl | hk
    · omega
    · have := (List.pairwise_cons.mp ht).1 k hk
      omega

def live (p : Playback) : List Nat := dropRepeats (p.animating.mergeSort (· ≤ ·))

@[simp] lemma mem_live {p : Playback} {i : Nat} : i ∈ p.live ↔ i ∈ p.animating := by
  simp [live]

lemma nodup_live (p : Playback) : p.live.Nodup := by
  have hs : (p.animating.mergeSort (· ≤ ·)).Pairwise (fun a b => decide (a ≤ b) = true) :=
    List.pairwise_mergeSort (by simpa using fun a b c => Nat.le_trans)
      (by simpa using Nat.le_total) _
  have ho : p.live.Pairwise (· < ·) := pairwise_dropRepeats (hs.imp of_decide_eq_true)
  exact ho.imp Nat.ne_of_lt

def Listed (p : Playback) : Prop := ∀ i, p.states[i]?.any (·.isHighlight) → i ∈ p.animating

lemma tick_states {p : Playback} (h : p.Listed) :
    p.tick.1.states = p.states.map RevealState.countDown := by
  apply Array.ext_getElem?
  intro i
  change (p.live.foldl (fun states i => states.modify i RevealState.countDown) p.states)[i]? = _
  rw [getElem?_foldl_modify _ p.nodup_live, Array.getElem?_map]
  split
  · rfl
  · next hi =>
    cases hs : p.states[i]? with
    | none => rfl
    | some s =>
      have hn : s.isHighlight = false := by
        by_contra hc
        exact hi (mem_live.mpr (h i (by simpa [hs] using hc)))
      simp [RevealState.countDown_of_not_isHighlight hn]

lemma tick_animating (p : Playback) :
    p.tick.1.animating = p.live.filter fun i => p.tick.1.states[i]?.any (·.isHighlight) := rfl

lemma Listed.tick {p : Playback} (h : p.Listed) : p.tick.1.Listed := by
  intro i hi
  rw [tick_animating, List.mem_filter]
  refine ⟨mem_live.mpr (h i ?_), hi⟩
  rw [tick_states h, Array.getElem?_map] at hi
  cases hs : p.states[i]? with
  | none => simp [hs] at hi
  | some s =>
    have : s.countDown.isHighlight := by simpa [hs] using hi
    simpa using RevealState.isHighlight_of_countDown this

lemma length_filter_range {α : Type} (q : α → Bool) (xs : List α) :
    ((List.range xs.length).filter fun i => xs[i]?.any q).length = xs.countP q := by
  induction xs with
  | nil => rfl
  | cons x xs ih =>
    rw [List.length_cons, List.range_succ_eq_map, List.filter_cons, List.filter_map]
    cases hx : q x <;> simpa [hx, Function.comp_def] using ih

lemma tick_count {p : Playback} (h : p.Listed) :
    p.tick.2 = p.tick.1.states.countP (·.isHighlight) := by
  let q := fun i : Nat => p.tick.1.states[i]?.any (·.isHighlight)
  have hp : (p.live.filter q).Perm ((List.range p.tick.1.states.size).filter q) := by
    rw [List.perm_ext_iff_of_nodup (p.nodup_live.filter q) (List.nodup_range.filter q)]
    intro i
    simp only [List.mem_filter, List.mem_range, mem_live]
    refine and_congr_left fun hi => ?_
    have hm : i ∈ p.tick.1.animating := h.tick i hi
    rw [tick_animating, List.mem_filter, mem_live] at hm
    have hs : i < p.tick.1.states.size := by
      by_contra hc
      simp [q, Array.getElem?_eq_none (Nat.le_of_not_lt hc)] at hi
    exact iff_of_true hm.1 hs
  calc p.tick.2 = (p.live.filter q).length := rfl
    _ = ((List.range p.tick.1.states.size).filter q).length := hp.length_eq
    _ = p.tick.1.states.countP (·.isHighlight) := by
      have := length_filter_range RevealState.isHighlight p.tick.1.states.toList
      simpa [q] using this

end Playback
end Toolpath
