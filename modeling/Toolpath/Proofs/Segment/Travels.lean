import Mathlib.Tactic.Lemma
import Toolpath.Motion.Machine
import Toolpath.Proofs.Segment.Stream

/-! Stores without their travels. What is left of a store is what it would be had the travels never
been pushed: layers count the deposits before them only. -/

namespace Toolpath

def Emission.isTravel : Emission → Bool
  | .layer _ => false
  | .segment s => s.isTravel

def Drawing.withoutTravels (d : Drawing) : Drawing :=
  { d with emissions := d.emissions.filter (!·.isTravel) }

namespace Store

def deposits (st : Store) : List Segment := st.segments.toList.filter (·.depositing)

def depositsBefore (st : Store) (n : Nat) : Nat :=
  (st.segments.toList.take n).countP (·.depositing)

def withoutTravels (st : Store) : Store :=
  { ofSegments st.deposits with
    layers := st.layers.map fun l => { l with firstSegment := st.depositsBefore l.firstSegment }
    firstInstruction := st.firstInstruction
    lastInstruction := st.lastInstruction }

def Covers (st : Store) : Prop := ∀ l ∈ st.layers, l.firstSegment ≤ st.size

variable {st : Store}

lemma covers_empty : ({} : Store).Covers := fun l hl => absurd hl (Array.not_mem_empty l)

lemma Covers.push (h : st.Covers) (s : Segment) : (st.push s).Covers := by
  intro l hl
  have hsize : (st.push s).size = st.size + 1 := Array.size_push s
  rw [hsize]
  exact Nat.le_succ_of_le (h l hl)

lemma Covers.pushLayer (h : st.Covers) (height : Float) (stamp : Stamp) :
    (st.pushLayer height stamp).Covers := by
  intro l hl
  rcases Array.mem_push.mp hl with hl | rfl
  · exact h l hl
  · exact Nat.le_refl _

lemma Covers.apply (h : st.Covers) (stamp : Stamp) (e : Emission) : (st.apply stamp e).Covers := by
  cases e with
  | layer height => exact h.pushLayer height stamp
  | segment s => exact h.push s

lemma ofSegments_concat (segments : List Segment) (s : Segment) :
    ofSegments (segments ++ [s]) = (ofSegments segments).push s := by
  rw [ofSegments, List.foldl_append]
  rfl

lemma deposits_push (st : Store) (s : Segment) :
    (st.push s).deposits = st.deposits ++ [s].filter (·.depositing) := by
  rw [deposits, push, Array.toList_push, List.filter_append]
  rfl

lemma depositsBefore_push (s : Segment) {n : Nat} (hn : n ≤ st.size) :
    (st.push s).depositsBefore n = st.depositsBefore n := by
  rw [depositsBefore, push, Array.toList_push, List.take_append_of_le_length hn]
  rfl

lemma withoutTravels_empty : ({} : Store).withoutTravels = {} := by
  unfold withoutTravels
  rw [Array.map_empty]
  rfl

lemma layers_withoutTravels_push (h : st.Covers) (s : Segment) :
    (st.push s).withoutTravels.layers = st.withoutTravels.layers := by
  apply Array.map_congr_left
  intro l hl
  rw [depositsBefore_push s (h l hl)]

lemma withoutTravels_push (h : st.Covers) (s : Segment) :
    (st.push s).withoutTravels =
      if s.depositing then st.withoutTravels.push s else st.withoutTravels := by
  have hlayers := layers_withoutTravels_push h s
  have hd := deposits_push st s
  unfold withoutTravels at hlayers ⊢
  dsimp only at hlayers
  rw [hlayers, hd]
  cases hs : s.depositing with
  | true =>
    rw [List.filter_cons_of_pos hs, List.filter_nil, ofSegments_concat]
    rfl
  | false =>
    rw [List.filter_cons_of_neg (by simp [hs]), List.filter_nil, List.append_nil]
    rfl

lemma withoutTravels_pushLayer (st : Store) (height : Float) (stamp : Stamp) :
    (st.pushLayer height stamp).withoutTravels = st.withoutTravels.pushLayer height stamp := by
  have hcount : st.depositsBefore st.size = (ofSegments st.deposits).segments.size := by
    rw [depositsBefore, size, ← Array.length_toList, List.take_length, ← Array.length_toList,
      toList_segments_ofSegments, List.countP_eq_length_filter, deposits]
  unfold withoutTravels pushLayer
  dsimp only
  rw [Array.map_push]
  congr 2
  rw [← hcount]
  rfl

lemma withoutTravels_apply (h : st.Covers) (stamp : Stamp) (e : Emission) :
    (st.apply stamp e).withoutTravels =
      if e.isTravel then st.withoutTravels else st.withoutTravels.apply stamp e := by
  cases e with
  | layer height => exact withoutTravels_pushLayer st height stamp
  | segment s =>
    have hpush := withoutTravels_push h s
    cases hs : s.depositing <;> simpa [apply, Emission.isTravel, Segment.isTravel, hs] using hpush

lemma withoutTravels_foldl_apply (h : st.Covers) (stamp : Stamp) (es : List Emission) :
    (es.foldl (apply stamp) st).withoutTravels =
      (es.filter (!·.isTravel)).foldl (apply stamp) st.withoutTravels := by
  induction es generalizing st with
  | nil => rfl
  | cons e es ih =>
    rw [List.foldl_cons, ih (h.apply stamp e), withoutTravels_apply h stamp e, List.filter_cons]
    cases e.isTravel with
    | true => rfl
    | false => rfl

lemma Covers.draw (h : st.Covers) (stamp : Stamp) (d : Drawing) : (st.draw stamp d).Covers := by
  have hnote : (if d.isInstruction then st.noteInstruction stamp.offset else st).Covers := by
    split
    · exact h
    · exact h
  exact List.foldlRecOn (motive := Covers) d.emissions _ hnote fun _ hst e _ => hst.apply stamp e

lemma withoutTravels_draw (h : st.Covers) (stamp : Stamp) (d : Drawing) :
    (st.draw stamp d).withoutTravels = st.withoutTravels.draw stamp d.withoutTravels := by
  unfold draw Drawing.withoutTravels
  dsimp only
  split
  · have hnote : (st.noteInstruction stamp.offset).Covers := h
    exact withoutTravels_foldl_apply hnote stamp d.emissions
  · exact withoutTravels_foldl_apply h stamp d.emissions

/-! What one store has of another that draws travels too. -/

structure Hides (hidden shown : Store) : Prop where
  segments : hidden.segments.toList = shown.segments.toList.filter (·.depositing)
  layers : hidden.layers =
    shown.layers.map fun l => { l with firstSegment := shown.depositsBefore l.firstSegment }
  firstInstruction : hidden.firstInstruction = shown.firstInstruction
  lastInstruction : hidden.lastInstruction = shown.lastInstruction

lemma Hides.firstSegments {hidden shown : Store} (h : hidden.Hides shown) :
    hidden.layers.map Layer.firstSegment =
      shown.layers.map fun l => shown.depositsBefore l.firstSegment := by
  rw [h.layers, Array.map_map]
  rfl

lemma hides_withoutTravels (st : Store) : st.withoutTravels.Hides st where
  segments := toList_segments_ofSegments st.deposits
  layers := rfl
  firstInstruction := rfl
  lastInstruction := rfl

end Store
end Toolpath
