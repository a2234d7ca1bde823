import Toolpath.Motion.Machine
import Toolpath.Proofs.Segment.Stream

/-! Stores only grow: what a line draws comes behind what is there. -/

namespace Toolpath
namespace Store

variable {st : Store} {stamp : Stamp}

lemma toList_segments_apply (st : Store) (stamp : Stamp) (e : Emission) :
    (st.apply stamp e).segments.toList = st.segments.toList ++ e.segment?.toList := by
  cases e with
  | layer height => exact (List.append_nil _).symm
  | segment s => exact Array.toList_push

lemma toList_segments_foldl_apply (st : Store) (stamp : Stamp) (es : List Emission) :
    (es.foldl (apply stamp) st).segments.toList =
      st.segments.toList ++ es.filterMap Emission.segment? := by
  induction es generalizing st with
  | nil => exact (List.append_nil _).symm
  | cons e es ih =>
    rw [List.foldl_cons, ih, toList_segments_apply, List.append_assoc]
    cases e with
    | layer height => rfl
    | segment s => rfl

lemma toList_segments_draw (st : Store) (stamp : Stamp) (d : Drawing) :
    (st.draw stamp d).segments.toList = st.segments.toList ++ d.segments := by
  rw [draw, toList_segments_foldl_apply, Drawing.segments]
  split <;> rfl

lemma size_draw (st : Store) (stamp : Stamp) (d : Drawing) :
    (st.draw stamp d).size = st.size + d.count := by
  have h := congrArg List.length (st.toList_segments_draw stamp d)
  rwa [List.length_append, Array.length_toList, Array.length_toList] at h

lemma exists_layers_foldl_apply (st : Store) (stamp : Stamp) (es : List Emission) :
    ∃ layers, (∀ l ∈ layers, l.stamp = stamp) ∧
      (es.foldl (apply stamp) st).layers.toList = st.layers.toList ++ layers := by
  induction es generalizing st with
  | nil => exact ⟨[], nofun, (List.append_nil _).symm⟩
  | cons e es ih =>
    obtain ⟨layers, hstamp, hlayers⟩ := ih (st.apply stamp e)
    cases e with
    | segment s => exact ⟨layers, hstamp, hlayers⟩
    | layer height =>
      refine ⟨⟨height, stamp, st.segments.size⟩ :: layers, ?_, ?_⟩
      · intro l hl
        rcases List.mem_cons.mp hl with rfl | hl
        · rfl
        · exact hstamp l hl
      · rw [List.foldl_cons, hlayers, apply, pushLayer, Array.toList_push, List.append_assoc]
        rfl

lemma exists_layers_draw (st : Store) (stamp : Stamp) (d : Drawing) :
    ∃ layers, (∀ l ∈ layers, l.stamp = stamp) ∧
      (st.draw stamp d).layers.toList = st.layers.toList ++ layers := by
  obtain ⟨layers, hstamp, hlayers⟩ := exists_layers_foldl_apply
    (if d.isInstruction then st.noteInstruction stamp.offset else st) stamp d.emissions
  refine ⟨layers, hstamp, hlayers.trans ?_⟩
  split <;> rfl

/-- Stores that were filled without ever pushing a segment that lies before the last one. -/
inductive Orderly : Store → Prop
  | empty : Orderly {}
  | push {st : Store} {s : Segment} (h : Orderly st)
    (hs : ∀ last, st.segments.back? = some last → last.offset ≤ s.offset) : Orderly (st.push s)
  | pushLayer {st : Store} (height : Float) (stamp : Stamp) (h : Orderly st) :
    Orderly (st.pushLayer height stamp)
  | noteInstruction {st : Store} (offset : Nat) (h : Orderly st) :
    Orderly (st.noteInstruction offset)

lemma Orderly.inOrder (h : Orderly st) : InOrder Segment.offset st.segments.toList := by
  induction h with
  | empty => exact List.Pairwise.nil
  | @push st s _ hs ih =>
    rw [Store.push, Array.toList_push]
    refine List.pairwise_append.mpr ⟨ih, List.pairwise_singleton _ _, fun a ha b hb => ?_⟩
    obtain rfl := List.mem_singleton.mp hb
    have hne : st.segments.toList ≠ [] := List.ne_nil_of_mem ha
    have hlast := hs (st.segments.toList.getLast hne) (by
      rw [← Array.getLast?_toList, List.getLast?_eq_some_getLast hne])
    -- the others are not after the last one
    rw [← List.dropLast_concat_getLast hne] at ih ha
    rcases List.mem_append.mp ha with ha | ha
    · have hle := (List.pairwise_append.mp ih).2.2 a ha _ (List.mem_singleton_self _)
      exact Nat.le_trans hle hlast
    · rwa [List.mem_singleton.mp ha]
  | pushLayer height stamp _ ih => exact ih
  | noteInstruction offset _ ih => exact ih

lemma Orderly.foldl_apply {es : List Emission} (h : Orderly st)
    (hpast : ∀ s ∈ st.segments, s.offset ≤ stamp.offset)
    (hes : ∀ s ∈ es.filterMap Emission.segment?, s.stamp = stamp) :
    Orderly (es.foldl (apply stamp) st) := by
  induction es generalizing st with
  | nil => exact h
  | cons e es ih =>
    cases e with
    | layer height => exact ih (h.pushLayer height stamp) hpast hes
    | segment s =>
      obtain ⟨hs, hes⟩ := List.forall_mem_cons.mp hes
      refine ih (h.push fun last hl => ?_) (fun t ht => ?_) hes
      · have hoffset : s.offset = stamp.offset := congrArg Stamp.offset hs
        rw [hoffset]
        exact hpast last (Array.mem_of_back? hl)
      · rcases Array.mem_push.mp ht with ht | rfl
        · exact hpast t ht
        · exact Nat.le_of_eq (congrArg Stamp.offset hs)

lemma Orderly.draw {d : Drawing} (h : Orderly st)
    (hpast : ∀ s ∈ st.segments, s.offset ≤ stamp.offset) (hd : ∀ s ∈ d.segments, s.stamp = stamp) :
    Orderly (st.draw stamp d) := by
  rw [Store.draw]
  split
  · exact (h.noteInstruction stamp.offset).foldl_apply hpast hd
  · exact h.foldl_apply hpast hd

end Store
end Toolpath
