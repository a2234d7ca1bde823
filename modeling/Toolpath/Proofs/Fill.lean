import Mathlib.Data.List.Basic
import Mathlib.Tactic.Lemma
import Toolpath.Fill

/-! What stands in an array after a range of it has been overwritten, or some of its items changed. -/

namespace Toolpath

variable {α : Type}

lemma getElem?_fillFrom (f : Nat → α) (lo n : Nat) (items : Array α) (i : Nat) :
    (fillFrom f lo n items)[i]? =
      if lo ≤ i ∧ i < lo + n then items[i]?.map fun _ => f i else items[i]? := by
  induction n generalizing lo items with
  | zero => rw [fillFrom, if_neg (by omega)]
  | succ n ih =>
    rw [fillFrom, ih, Array.getElem?_setIfInBounds]
    grind

lemma getElem?_fillRange (f : Nat → α) (lo hi : Nat) (items : Array α) (i : Nat) :
    (fillRange f lo hi items)[i]? =
      if lo ≤ i ∧ i < hi then items[i]?.map fun _ => f i else items[i]? := by
  rw [fillRange, getElem?_fillFrom]
  congr 1
  apply propext
  omega

@[simp] lemma size_fillFrom (f : Nat → α) (lo n : Nat) (items : Array α) :
    (fillFrom f lo n items).size = items.size := by
  induction n generalizing lo items with
  | zero => rfl
  | succ n ih => rw [fillFrom, ih, Array.size_setIfInBounds]

@[simp] lemma size_fillRange (f : Nat → α) (lo hi : Nat) (items : Array α) :
    (fillRange f lo hi items).size = items.size := size_fillFrom ..

lemma getElem?_foldl_modify (f : α → α) {is : List Nat} (h : is.Nodup) (items : Array α) (i : Nat) :
    (is.foldl (fun items i => items.modify i f) items)[i]? =
      if i ∈ is then items[i]?.map f else items[i]? := by
  induction is generalizing items with
  | nil => simp
  | cons j is ih =>
    obtain ⟨hj, ht⟩ := List.nodup_cons.mp h
    rw [List.foldl_cons, ih ht, Array.getElem?_modify]
    grind

end Toolpath
