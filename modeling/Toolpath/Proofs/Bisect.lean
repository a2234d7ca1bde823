import Mathlib.Data.List.Basic
import Mathlib.Tactic.Lemma
import Toolpath.Bisect

/-! Halving counts the items up to a bound when the items come in order. -/

namespace Toolpath

variable {α : Type} {p : α → Bool} {key : α → Nat}

abbrev InOrder (key : α → Nat) (items : List α) : Prop :=
  items.Pairwise fun a b => key a ≤ key b

abbrev Leads (p : α → Bool) (items : List α) : Prop :=
  items.Pairwise fun a b => p b → p a

lemma InOrder.leads {items : List α} (h : InOrder key items) (n : Nat) :
    Leads (fun a => key a ≤ n) items := by
  refine List.Pairwise.imp ?_ h
  intro a b hab hb
  exact decide_eq_true (Nat.le_trans hab (of_decide_eq_true hb))

lemma Leads.filter_append {items : List α} (h : Leads p items) :
    items.filter p ++ items.filter (!p ·) = items := by
  induction items with
  | nil => rfl
  | cons a items ih =>
    obtain ⟨ha, ht⟩ := List.pairwise_cons.mp h
    cases hp : p a with
    | true => simp [hp, ih ht]
    | false =>
      have hn : ∀ b ∈ items, p b = false := by
        intro b hb
        by_contra hpb
        exact absurd (ha b hb (by simpa using hpb)) (by simp [hp])
      have hl : items.filter p = [] := by simpa [List.filter_eq_nil_iff] using hn
      have hr : items.filter (!p ·) = items := by simpa [List.filter_eq_self] using hn
      simp [hp, hl, hr]

lemma Leads.any_getElem?_iff {items : List α} (h : Leads p items) (i : Nat) :
    items[i]?.any p = true ↔ i < items.countP p := by
  rw [List.countP_eq_length_filter]
  conv_lhs => rw [← h.filter_append, List.getElem?_append]
  split
  · next hi =>
    refine iff_of_true ?_ hi
    rw [List.getElem?_eq_getElem hi]
    exact (List.mem_filter.mp (List.getElem_mem hi)).2
  · next hi =>
    refine iff_of_false ?_ hi
    rw [Bool.not_eq_true, Option.any_eq_false]
    intro a ha
    simpa using (List.mem_filter.mp (List.mem_of_getElem? ha)).2

lemma bisectFrom_eq {p : Nat → Bool} {k : Nat} (hp : ∀ i, p i = true ↔ i < k) (size base : Nat)
    (hlo : base ≤ k) (hhi : k ≤ base + size) : bisectFrom p size base = k := by
  -- the partition point stays between `base` and `base + size`
  induction size using Nat.strongRecOn generalizing base with
  | _ size ih =>
    rw [bisectFrom]
    split
    · have hm := hp (base + size / 2)
      apply ih (size - size / 2) (by omega)
      · split <;> grind
      · split <;> grind
    · have hb := hp base
      split
      · next h => have := hb.mp h.2; omega
      · next h =>
        rw [hb] at h
        omega

theorem partitionPoint_eq_countP {items : Array α} (h : Leads p items.toList) :
    partitionPoint p items = items.countP p := by
  apply bisectFrom_eq
  · intro i
    rw [← Array.getElem?_toList, h.any_getElem?_iff, Array.countP_toList]
  · exact Nat.zero_le _
  · simpa using Array.countP_le_size

lemma Leads.lt_countP_iff {items : Array α} (h : Leads p items.toList) {i : Nat} {a : α}
    (ha : items[i]? = some a) : i < items.countP p ↔ p a := by
  simpa [ha] using (h.any_getElem?_iff i).symm

lemma Leads.getLast?_filter {items : Array α} (h : Leads p items.toList) :
    (items.toList.filter p).getLast? =
      match partitionPoint p items with
      | 0 => none
      | k + 1 => items[k]? := by
  rw [partitionPoint_eq_countP h, ← Array.countP_toList, List.countP_eq_length_filter,
    List.getLast?_eq_getElem?]
  cases hn : (items.toList.filter p).length with
  | zero => rw [List.eq_nil_of_length_eq_zero hn]; rfl
  | succ k =>
    dsimp only
    rw [← Array.getElem?_toList]
    conv_rhs => rw [← h.filter_append]
    exact (List.getElem?_append_left (by omega)).symm

end Toolpath
