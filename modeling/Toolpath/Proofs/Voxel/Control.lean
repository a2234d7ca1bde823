import Toolpath.Proofs.Playback.Control
import Toolpath.Voxel.Playback

/-! Runs of the playback of a grid, under the same controls as the players of segments. -/

namespace Toolpath
namespace VoxelPlayback

variable (p : VoxelPlayback) (g : VoxelGrid)

def handle (p : VoxelPlayback) (g : VoxelGrid) : Control → VoxelPlayback × Reply
  | .advance x => ((p.advance g x).1, .advanced (p.advance g x).2)
  | .tick => (p.tick.1, .ticked p.tick.2)
  | .forceRedraw => (p.forceRedraw, .noted)

def run (p : VoxelPlayback) (g : VoxelGrid) (cs : List Control) : VoxelPlayback :=
  cs.foldl (fun p c => (p.handle g c).1) p

lemma run_concat (cs : List Control) (c : Control) :
    p.run g (cs ++ [c]) = ((p.run g cs).handle g c).1 := by
  simp [run]

lemma run_induction {P : VoxelPlayback → Prop} (h : P p)
    (hs : ∀ q c, P q → P (q.handle g c).1) (cs : List Control) : P (p.run g cs) := by
  induction cs using List.reverseRecOn with
  | nil => exact h
  | append_singleton cs c ih =>
    rw [run_concat]
    exact hs _ c ih

lemma run_append (cs ds : List Control) : p.run g (cs ++ ds) = (p.run g cs).run g ds := by
  rw [run, List.foldl_append]
  rfl

lemma advance_snd (x : Nat) : (p.advance g x).2 = p.cursor.kind p.scrubDistance x := by
  rw [advance, Cursor.kind]
  cases p.cursor.base? p.scrubDistance x <;> rfl

lemma cursor_advance (x : Nat) : (p.advance g x).1.cursor = .moveTo x := by
  rw [advance]
  cases p.cursor.base? p.scrubDistance x <;> rfl

lemma scrubDistance_handle (c : Control) : (p.handle g c).1.scrubDistance = p.scrubDistance := by
  cases c with
  | advance x =>
    rw [handle, advance]
    cases p.cursor.base? p.scrubDistance x <;> rfl
  | tick => rfl
  | forceRedraw => rfl

end VoxelPlayback
end Toolpath
