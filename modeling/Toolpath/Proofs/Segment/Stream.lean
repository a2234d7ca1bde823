import Mathlib.Data.List.Pairwise
import Toolpath.Proofs.Bisect
import Toolpath.Segment.Store

/-! Segments as programs draw them. -/

namespace Toolpath

structure Streamed (segments : List Segment) : Prop where
  ordered : InOrder Segment.offset segments
  fits : ∀ s ∈ segments, s.offset ≤ Stamp.maxOffset

namespace Streamed

instance (segments : List Segment) : Decidable (Streamed segments) :=
  decidable_of_iff (InOrder Segment.offset segments ∧ ∀ s ∈ segments, s.offset ≤ Stamp.maxOffset)
    ⟨fun h => ⟨h.1, h.2⟩, fun h => ⟨h.ordered, h.fits⟩⟩

lemma sublist {segments part : List Segment} (h : Streamed segments)
    (hs : part.Sublist segments) : Streamed part where
  ordered := h.ordered.sublist hs
  fits s hm := h.fits s (hs.subset hm)

end Streamed

def Segment.dot (offset : Nat) : Segment :=
  ⟨.zero, .zero, ⟨0, offset⟩, 0, .white, true, true, 0.2, 0.0, .linear⟩

namespace Store

def ofSegments (segments : List Segment) : Store := segments.foldl push {}

def upTo (st : Store) (offset : Nat) : Store :=
  ofSegments (st.segments.toList.filter (·.offset ≤ offset))

lemma toList_segments_foldl_push (segments : List Segment) (st : Store) :
    (segments.foldl push st).segments.toList = st.segments.toList ++ segments := by
  induction segments generalizing st with
  | nil => simp
  | cons s segments ih =>
    rw [List.foldl_cons, ih, push, Array.toList_push, List.append_assoc]
    rfl

@[simp] lemma toList_segments_ofSegments (segments : List Segment) :
    (ofSegments segments).segments.toList = segments :=
  toList_segments_foldl_push segments {}

lemma offset_le_of_maxOffset {st : Store} {s : Segment} {o : Nat}
    (h : InOrder Segment.offset st.segments.toList) (hs : s ∈ st.segments)
    (ho : ∀ m, st.maxOffset = some m → m ≤ o) : s.offset ≤ o := by
  have hmem : s ∈ st.segments.toList := Array.mem_toList_iff.mpr hs
  have hne := List.ne_nil_of_mem hmem
  have hlast : st.segments.back? = some (st.segments.toList.getLast hne) := by
    rw [← Array.getLast?_toList, List.getLast?_eq_some_getLast hne]
  refine Nat.le_trans (h.rel_getLast_of_rel_getLast_getLast hmem (Nat.le_refl _)) (ho _ ?_)
  rw [maxOffset, hlast]
  rfl

end Store
end Toolpath
