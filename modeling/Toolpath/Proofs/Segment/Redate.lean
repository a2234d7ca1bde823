import Mathlib.Tactic.Lemma
import Toolpath.Motion.Machine

/-! Stores with other offsets. To change the offsets of all that is drawn changes those of a store,
and nothing else in it. -/

namespace Toolpath

variable (f : Nat → Nat)

def Stamp.redate (t : Stamp) : Stamp := { t with offset := f t.offset }

def Segment.redate (s : Segment) : Segment := { s with stamp := s.stamp.redate f }

def Layer.redate (l : Layer) : Layer := { l with stamp := l.stamp.redate f }

def Emission.redate : Emission → Emission
  | .layer height => .layer height
  | .segment s => .segment (s.redate f)

def Drawing.redate (d : Drawing) : Drawing :=
  { d with emissions := d.emissions.map (Emission.redate f) }

namespace Store

def redate (st : Store) : Store :=
  { st with
    segments := st.segments.map (Segment.redate f)
    layers := st.layers.map (Layer.redate f)
    firstInstruction := st.firstInstruction.map f
    lastInstruction := st.lastInstruction.map f }

variable (st : Store) (stamp : Stamp)

lemma redate_empty : ({} : Store).redate f = {} := by
  unfold redate
  rw [Array.map_empty, Array.map_empty]
  rfl

lemma redate_push (s : Segment) : (st.push s).redate f = (st.redate f).push (s.redate f) := by
  unfold redate push
  dsimp only
  rw [Array.map_push]
  rfl

lemma redate_pushLayer (height : Float) :
    (st.pushLayer height stamp).redate f = (st.redate f).pushLayer height (stamp.redate f) := by
  unfold redate pushLayer
  dsimp only
  rw [Array.map_push, Array.size_map]
  rfl

lemma redate_noteInstruction (offset : Nat) :
    (st.noteInstruction offset).redate f = (st.redate f).noteInstruction (f offset) := by
  unfold redate noteInstruction
  dsimp only
  rw [Option.map_some, Option.map_some, Option.getD_map]

lemma redate_apply (e : Emission) :
    (st.apply stamp e).redate f = (st.redate f).apply (stamp.redate f) (e.redate f) := by
  cases e with
  | layer height => exact redate_pushLayer ..
  | segment s => exact redate_push ..

lemma redate_foldl_apply (es : List Emission) :
    (es.foldl (apply stamp) st).redate f =
      (es.map (Emission.redate f)).foldl (apply (stamp.redate f)) (st.redate f) := by
  induction es generalizing st with
  | nil => rfl
  | cons e es ih => rw [List.foldl_cons, ih, redate_apply]; rfl

lemma redate_draw (d : Drawing) :
    (st.draw stamp d).redate f = (st.redate f).draw (stamp.redate f) (d.redate f) := by
  unfold draw Drawing.redate
  dsimp only
  split
  · rw [redate_foldl_apply, redate_noteInstruction]
    rfl
  · exact redate_foldl_apply ..

end Store
end Toolpath
