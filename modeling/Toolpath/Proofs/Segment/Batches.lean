import Mathlib.Data.List.Basic
import Mathlib.Tactic.Lemma
import Toolpath.Playback.Batched

/-! The batches of a store lie end to end, and so do the players of them. -/

namespace Toolpath
namespace Store

lemma getElem?_batchesFrom (n index : Nat) (segments : List Segment) (j : Nat) :
    (batchesFrom n index segments)[j]? =
      if j * (n + 1) < segments.length then
        some (index + j * (n + 1), (segments.drop (j * (n + 1))).take (n + 1))
      else none := by
  induction j generalizing index segments with
  | zero =>
    cases segments with
    | nil => simp [batchesFrom]
    | cons s rest => simp [batchesFrom]
  | succ j ih =>
    cases segments with
    | nil => simp [batchesFrom]
    | cons s rest =>
      rw [batchesFrom, List.getElem?_cons_succ, ih, List.length_drop, List.drop_drop,
        Nat.succ_mul, List.length_cons]
      have hd : (s :: rest).drop (j * (n + 1) + (n + 1)) = rest.drop (n + j * (n + 1)) := by
        rw [← Nat.add_assoc, List.drop_succ_cons, Nat.add_comm _ n]
      rw [hd]
      by_cases hlt : j * (n + 1) < rest.length - n
      · rw [if_pos hlt, if_pos (by omega)]
        congr 2
        omega
      · rw [if_neg hlt, if_neg (by omega)]

lemma getElem?_batches (st : Store) {n : Nat} (hn : 0 < n) (j : Nat) :
    (st.batches n)[j]? =
      if j * n < st.size then some (j * n, (st.segments.toList.drop (j * n)).take n) else none := by
  rw [batches, getElem?_batchesFrom, Nat.sub_add_cancel hn, Nat.zero_add]
  rfl

lemma size_le_batches (st : Store) {n : Nat} (hn : 0 < n) : st.size ≤ (st.batches n).length * n := by
  have h := st.getElem?_batches hn (st.batches n).length
  rw [List.getElem?_eq_none (Nat.le_refl _)] at h
  by_contra hc
  rw [if_pos (Nat.lt_of_not_le hc)] at h
  cases h

lemma flatMap_batchesFrom (n index : Nat) (segments : List Segment) :
    (batchesFrom n index segments).flatMap (·.2) = segments := by
  induction index, segments using batchesFrom.induct n with
  | case1 index => rw [batchesFrom, List.flatMap_nil]
  | case2 index s rest ih =>
    rw [batchesFrom, List.flatMap_cons, ih, List.cons_append, List.take_append_drop]

lemma index_batchesFrom {n index : Nat} {segments : List Segment}
    {before after : List (Nat × List Segment)} {b : Nat × List Segment}
    (h : batchesFrom n index segments = before ++ b :: after) :
    b.1 = index + (before.flatMap (·.2)).length := by
  induction before generalizing index segments with
  | nil =>
    cases segments with
    | nil => simp [batchesFrom] at h
    | cons s rest =>
      rw [batchesFrom] at h
      rw [← (List.cons.inj h).1]
      rfl
  | cons c before ih =>
    cases segments with
    | nil => simp [batchesFrom] at h
    | cons s rest =>
      rw [batchesFrom] at h
      obtain ⟨rfl, hrest⟩ := List.cons.inj h
      -- a batch that others follow is full
      have hlong : n < rest.length := by
        by_contra hshort
        rw [List.drop_eq_nil_of_le (Nat.le_of_not_lt hshort), batchesFrom] at hrest
        simp at hrest
      rw [ih hrest, List.flatMap_cons, List.length_append, List.length_cons, List.length_take,
        Nat.min_eq_left (Nat.le_of_lt hlong)]
      omega

end Store

namespace BatchedPlayback

variable (settings : Settings) (tools : ToolTable) (store : Store)

lemma batchSize_pos : 0 < (ofStore settings tools store).batchSize :=
  Nat.lt_of_lt_of_le Nat.zero_lt_one (Nat.le_max_left ..)

lemma getElem?_batches_ofStore (j : Nat) :
    let many := ofStore settings tools store
    many.batches[j]? =
      if j * many.batchSize < store.size then
        some (.ofSegments settings tools
          ((store.segments.toList.drop (j * many.batchSize)).take many.batchSize))
      else none := by
  intro many
  have hbatch := store.getElem?_batches (batchSize_pos settings tools store) j
  change ((store.batches many.batchSize).map fun b =>
    Playback.ofSegments settings tools b.2).toArray[j]? = _
  rw [List.getElem?_toArray, List.getElem?_map, hbatch]
  split <;> rfl

lemma size_le_batches_ofStore :
    let many := ofStore settings tools store
    store.size ≤ many.batches.size * many.batchSize := by
  intro many
  have hsize : many.batches.size = (store.batches many.batchSize).length := by
    change ((store.batches many.batchSize).map _).toArray.size = _
    rw [List.size_toArray, List.length_map]
  rw [hsize]
  exact store.size_le_batches (batchSize_pos settings tools store)

end BatchedPlayback
end Toolpath
