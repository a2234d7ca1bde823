import Toolpath.Proofs.Playback.Coherence
import Toolpath.Proofs.Voxel.Control

/-! An advance settles a player, whatever state it comes from: to advance to the same offset again
changes nothing, not even after some ticks. -/

namespace Toolpath

lemma Cursor.kind_moveTo (scrub x : Nat) : (Cursor.moveTo x).kind scrub x = .incremental := by
  simp [Cursor.kind, Cursor.base?, Cursor.moveTo, Cursor.distance]

namespace Playback

/-- The marks stand where an offset puts them, and what lies between them is shown early. -/
structure Settled (x : Nat) (p : Playback) : Prop where
  cursor_eq : p.cursor = .moveTo x
  revealed_eq : p.revealed = p.partition x
  lookAheadEnd_eq : p.lookAheadEnd = p.partition (p.horizon x)
  early : ∀ i s, p.revealed ≤ i → i < p.lookAheadEnd → p.states[i]? = some s → s = .lookAhead

lemma settled_fullPass (p : Playback) (x : Nat) : (p.fullPass x).Settled x where
  cursor_eq := rfl
  revealed_eq := rfl
  lookAheadEnd_eq := rfl
  early i s hr hl hs := by
    rw [getElem?_states_fullPass, Option.map_eq_some_iff] at hs
    obtain ⟨_, -, rfl⟩ := hs
    rw [revealed_fullPass] at hr
    rw [lookAheadEnd_fullPass] at hl
    rw [restState, if_neg (Nat.not_lt.mpr hr), aheadState, if_pos hl]

lemma settled_incremental (p : Playback) (x : Nat) : (p.incremental x).Settled x where
  cursor_eq := rfl
  revealed_eq := rfl
  lookAheadEnd_eq := rfl
  early i s hr hl hs := by
    rw [revealed_incremental] at hr
    rw [lookAheadEnd_incremental] at hl
    have hrange : p.partition x ≤ i ∧ i < max (p.partition (p.horizon x)) p.lookAheadEnd :=
      ⟨hr, Nat.lt_of_lt_of_le hl (Nat.le_max_left ..)⟩
    rw [incremental, getElem?_fillRange, if_pos hrange, Option.map_eq_some_iff] at hs
    obtain ⟨_, -, rfl⟩ := hs
    rw [aheadState, if_pos hl]

lemma settled_advance (p : Playback) (x : Nat) : (p.advance x).1.Settled x := by
  rcases p.advance_cases x with h | h
  · exact h ▸ p.settled_fullPass x
  · exact h ▸ p.settled_incremental x

namespace Settled

variable {x : Nat} {p : Playback}

lemma tick (h : p.Settled x) : p.tick.1.Settled x where
  cursor_eq := h.cursor_eq
  revealed_eq := h.revealed_eq
  lookAheadEnd_eq := h.lookAheadEnd_eq
  early i s hr hl hs := by
    change (p.live.foldl (fun states i => states.modify i RevealState.countDown) p.states)[i]? = _
      at hs
    rw [getElem?_foldl_modify _ p.nodup_live] at hs
    split at hs
    · obtain ⟨old, hold, rfl⟩ := Option.map_eq_some_iff.mp hs
      rw [h.early i old hr hl hold]
      rfl
    · exact h.early i s hr hl hs

lemma incremental_eq (h : p.Settled x) : p.incremental x = p := by
  have hstates : (p.incremental x).states = p.states := by
    apply Array.ext_getElem?
    intro i
    -- nothing comes up between the marks, and what is shown early is so already
    rw [incremental, ← h.revealed_eq, ← h.lookAheadEnd_eq, getElem?_fillRange, getElem?_fillRange,
      if_neg (by omega : ¬ (p.revealed ≤ i ∧ i < p.revealed)), Nat.max_self]
    split
    · next hrange =>
      cases hs : p.states[i]? with
      | none => rfl
      | some s =>
        rw [h.early i s hrange.1 hrange.2 hs, Option.map_some, aheadState, if_pos hrange.2]
    · rfl
  have hanimating : (p.incremental x).animating = p.animating := by
    rw [incremental, ← h.revealed_eq, Nat.sub_self]
    exact List.append_nil _
  have heq : p.incremental x = { p with
      states := (p.incremental x).states
      animating := (p.incremental x).animating
      cursor := .moveTo x
      revealed := p.partition x
      lookAheadEnd := p.partition (p.horizon x) } := rfl
  rw [heq, hstates, hanimating, ← h.cursor_eq, ← h.revealed_eq, ← h.lookAheadEnd_eq]

lemma advance_eq (h : p.Settled x) : p.advance x = (p, .incremental) := by
  rw [Playback.advance_eq, h.cursor_eq, Cursor.kind_moveTo, h.incremental_eq]

end Settled

lemma settled_run (p : Playback) (cs : List Control) (x n : Nat) :
    (p.run (cs ++ .advance x :: List.replicate n .tick)).Settled x := by
  rw [run_append]
  induction n with
  | zero => exact settled_advance _ x
  | succ n ih =>
    rw [List.replicate_succ', ← List.cons_append, run_concat]
    exact ih.tick

end Playback

namespace VoxelPlayback

variable {p : VoxelPlayback}

lemma advance_eq (g : VoxelGrid) {x : Nat} (h : p.cursor = .moveTo x) :
    p.advance g x = (p, .incremental) := by
  have hbase : p.cursor.base? p.scrubDistance x = some x := by
    rw [h]
    simp [Cursor.base?, Cursor.moveTo, Cursor.distance]
  rw [advance, hbase]
  dsimp only
  rw [incremental, if_neg (Nat.lt_irrefl x), ← h]

lemma cursor_run_ticks (p : VoxelPlayback) (g : VoxelGrid) (cs : List Control) (x n : Nat) :
    (p.run g (cs ++ .advance x :: List.replicate n .tick)).cursor = .moveTo x := by
  rw [run_append]
  induction n with
  | zero => exact cursor_advance _ g x
  | succ n ih =>
    rw [List.replicate_succ', ← List.cons_append, run_concat]
    exact ih

end VoxelPlayback

namespace BatchedPlayback

lemma advance_eq {p : BatchedPlayback} {x : Nat}
    (h : ∀ b ∈ p.batches, b.advance x = (b, .incremental)) : p.advance x = (p, .incremental) := by
  have hfst : (p.batches.map fun b => (b.advance x).1) = p.batches := by
    refine (Array.map_congr_left fun b hb => ?_).trans p.batches.map_id
    rw [h b hb]
    rfl
  have hsnd : p.batches.any (fun b => (b.advance x).2 == .fullPass) = false := by
    rw [Array.any_eq_false']
    intro b hb
    rw [h b hb]
    exact Bool.false_ne_true
  rw [← Prod.eta (p.advance x), advance_fst, advance_snd, hfst, hsnd]
  rfl

end BatchedPlayback

namespace Control

theorem advance_again (settings : Settings) (tools : ToolTable) (segments : List Segment)
    (store : Store) (g : VoxelGrid) (cs : List Control) (x n : Nat) :
    let history := cs ++ .advance x :: List.replicate n .tick
    let one := (Playback.ofSegments settings tools segments).run history
    let many := (BatchedPlayback.ofStore settings tools store).run history
    let cells := (VoxelPlayback.ofGrid g settings).run g history
    one.advance x = (one, .incremental) ∧ many.advance x = (many, .incremental) ∧
      cells.advance g x = (cells, .incremental) := by
  intro history one many cells
  refine ⟨(Playback.settled_run _ cs x n).advance_eq, ?_, ?_⟩
  · refine BatchedPlayback.advance_eq fun b hb => ?_
    have hmany := BatchedPlayback.run_eq (.ofStore settings tools store) history
    obtain ⟨start, -, rfl⟩ := Array.mem_map.mp (congrArg BatchedPlayback.batches hmany ▸ hb)
    exact (start.settled_run cs x n).advance_eq
  · exact VoxelPlayback.advance_eq g (VoxelPlayback.cursor_run_ticks _ g cs x n)

end Control
end Toolpath
