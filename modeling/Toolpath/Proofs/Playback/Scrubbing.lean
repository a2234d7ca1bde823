import Toolpath.Proofs.Segment.Batches
import Toolpath.Proofs.Segment.Stream
import Toolpath.Proofs.Voxel.Control
import Toolpath.Voxel.Build

/-! The rule for scrubbing, by the history of a cursor. Players of segments, batches and cells keep the
same cursor, so they all take the same way at every advance. -/

namespace Toolpath
namespace Control

def RedrawPending (cs : List Control) : Prop :=
  ∃ past later, cs = past ++ forceRedraw :: later ∧ ∀ c ∈ later, c.offset? = none

lemma not_redrawPending_nil : ¬ RedrawPending [] := by
  rintro ⟨past, later, h, -⟩
  simp at h

lemma redrawPending_concat (cs : List Control) (c : Control) :
    RedrawPending (cs ++ [c]) ↔ c = forceRedraw ∨ RedrawPending cs ∧ c.offset? = none := by
  constructor
  · rintro ⟨past, later, h, hlater⟩
    rcases List.eq_nil_or_concat' later with rfl | ⟨early, last, rfl⟩
    · exact Or.inl (List.singleton_inj.mp (List.append_inj' h rfl).2)
    · rw [← List.cons_append, ← List.append_assoc] at h
      obtain ⟨rfl, hlast⟩ := List.append_inj' h rfl
      obtain rfl := List.singleton_inj.mp hlast
      refine Or.inr ⟨⟨past, early, rfl, fun d hd => ?_⟩, ?_⟩
      · exact hlater d (List.mem_append_left _ hd)
      · exact hlater c (List.mem_append_right _ (List.mem_singleton_self c))
  · rintro (rfl | ⟨⟨past, later, rfl, hlater⟩, hc⟩)
    · exact ⟨cs, [], rfl, List.forall_mem_nil _⟩
    · refine ⟨past, later ++ [c], by simp, fun d hd => ?_⟩
      rcases List.mem_append.mp hd with hd | hd
      · exact hlater d hd
      · rw [List.mem_singleton.mp hd, hc]

end Control

namespace Cursor

variable (c : Cursor) (scrub x : Nat)

lemma kind_eq_fullPass_iff :
    c.kind scrub x = .fullPass ↔
      c.offset = none ∨ c.redraw ∨
        ∃ last, c.offset = some last ∧ (last + scrub < x ∨ x + scrub < last) := by
  have hkind : c.kind scrub x = .fullPass ↔ c.base? scrub x = none := by
    rw [kind]
    cases c.base? scrub x <;> simp
  have hfar (last : Nat) : scrub < distance last x ↔ last + scrub < x ∨ x + scrub < last := by
    rw [distance]
    omega
  rw [hkind, base?, Option.filter_eq_none_iff]
  cases c.offset with
  | none => simp
  | some last => cases c.redraw <;> simp [hfar]

def follow (c : Cursor) : Control → Cursor
  | .advance x => .moveTo x
  | .tick => c
  | .forceRedraw => c.forceRedraw

def after (cs : List Control) : Cursor := cs.foldl follow {}

lemma after_concat (cs : List Control) (c : Control) : after (cs ++ [c]) = (after cs).follow c := by
  simp [after]

lemma offset_after (cs : List Control) : (after cs).offset = Control.lastOffset? cs := by
  induction cs using List.reverseRecOn with
  | nil => rfl
  | append_singleton cs c ih =>
    rw [after_concat, Control.lastOffset?_concat, ← ih]
    cases c <;> rfl

lemma redraw_after (cs : List Control) : (after cs).redraw ↔ Control.RedrawPending cs := by
  induction cs using List.reverseRecOn with
  | nil => exact iff_of_false Bool.false_ne_true Control.not_redrawPending_nil
  | append_singleton cs c ih =>
    rw [after_concat, Control.redrawPending_concat, ← ih]
    cases c <;> simp [follow, moveTo, forceRedraw, Control.offset?]

end Cursor

namespace Playback

lemma cursor_handle (p : Playback) (c : Control) : (p.handle c).1.cursor = p.cursor.follow c := by
  cases c with
  | advance x => rcases p.advance_cases x with h | h <;> exact congrArg Playback.cursor h
  | tick => rfl
  | forceRedraw => rfl

lemma cursor_run {p : Playback} (h : p.cursor = {}) (cs : List Control) :
    (p.run cs).cursor = .after cs := by
  induction cs using List.reverseRecOn with
  | nil => exact h
  | append_singleton cs c ih => rw [run_concat, cursor_handle, ih, Cursor.after_concat]

lemma advance_snd_run {p : Playback} (h : p.cursor = {}) (cs : List Control) (x : Nat) :
    ((p.run cs).advance x).2 = (Cursor.after cs).kind p.look.playing.scrubDistance x := by
  rw [advance_eq, cursor_run h, run_look]

end Playback

namespace VoxelPlayback

variable {p : VoxelPlayback} (g : VoxelGrid)

lemma cursor_handle (p : VoxelPlayback) (c : Control) :
    (p.handle g c).1.cursor = p.cursor.follow c := by
  cases c with
  | advance x => exact p.cursor_advance g x
  | tick => rfl
  | forceRedraw => rfl

lemma scrubDistance_run (p : VoxelPlayback) (cs : List Control) :
    (p.run g cs).scrubDistance = p.scrubDistance := by
  induction cs using List.reverseRecOn with
  | nil => rfl
  | append_singleton cs c ih => rw [run_concat, scrubDistance_handle, ih]

lemma cursor_run (h : p.cursor = {}) (cs : List Control) : (p.run g cs).cursor = .after cs := by
  induction cs using List.reverseRecOn with
  | nil => exact h
  | append_singleton cs c ih => rw [run_concat, cursor_handle, ih, Cursor.after_concat]

lemma advance_snd_run (h : p.cursor = {}) (cs : List Control) (x : Nat) :
    ((p.run g cs).advance g x).2 = (Cursor.after cs).kind p.scrubDistance x := by
  rw [advance_snd, cursor_run g h, scrubDistance_run]

end VoxelPlayback

namespace BatchedPlayback

variable {settings : Settings} {tools : ToolTable} {store : Store} {b : Playback} {cs : List Control}

lemma exists_of_mem_ofStore (hb : b ∈ (ofStore settings tools store).batches) :
    ∃ segments, b = .ofSegments settings tools segments := by
  obtain ⟨j, hj⟩ := Array.mem_iff_getElem?.mp hb
  rw [getElem?_batches_ofStore] at hj
  split at hj
  · exact ⟨_, (Option.some.inj hj).symm⟩
  · cases hj

lemma exists_mem_run (settings : Settings) (tools : ToolTable) (h : 0 < store.size)
    (cs : List Control) : ∃ b, b ∈ ((ofStore settings tools store).run cs).batches := by
  have hfirst := getElem?_batches_ofStore settings tools store 0
  dsimp only at hfirst
  rw [if_pos (by rwa [Nat.zero_mul])] at hfirst
  rw [run_eq]
  exact ⟨_, Array.mem_map_of_mem (Array.mem_of_getElem? hfirst)⟩

lemma batch_run (hb : b ∈ ((ofStore settings tools store).run cs).batches) :
    b.cursor = .after cs ∧
      ∀ x, (b.advance x).2 = (Cursor.after cs).kind settings.playback.scrubDistance x := by
  rw [run_eq] at hb
  obtain ⟨start, hstart, rfl⟩ := Array.mem_map.mp hb
  obtain ⟨segments, rfl⟩ := exists_of_mem_ofStore hstart
  exact ⟨Playback.cursor_run rfl cs, fun x => Playback.advance_snd_run rfl cs x⟩

end BatchedPlayback

namespace Cursor

theorem players_agree {settings settings' settings'' : Settings} {scrub : Nat}
    (hone : settings.playback.scrubDistance = scrub)
    (hmany : settings'.playback.scrubDistance = scrub)
    (hcells : settings''.playback.scrubDistance = scrub) (tools tools' : ToolTable)
    (segments : List Segment) {store : Store} (hne : 0 < store.size) (g : VoxelGrid)
    (cs : List Control) :
    let one := (Playback.ofSegments settings tools segments).run cs
    let many := (BatchedPlayback.ofStore settings' tools' store).run cs
    let cells := (VoxelPlayback.ofGrid g settings'').run g cs
    (one.cursor.offset = Control.lastOffset? cs ∧ cells.cursor.offset = Control.lastOffset? cs ∧
        (∃ b, b ∈ many.batches) ∧
        ∀ b ∈ many.batches, b.cursor.offset = Control.lastOffset? cs) ∧
      ∀ x, (many.advance x).2 = (one.advance x).2 ∧ (cells.advance g x).2 = (one.advance x).2 ∧
        ((one.advance x).2 = .fullPass ↔
          Control.lastOffset? cs = none ∨ Control.RedrawPending cs ∨
            ∃ last, Control.lastOffset? cs = some last ∧ (last + scrub < x ∨ x + scrub < last)) := by
  intro one many cells
  obtain ⟨b, hb⟩ : ∃ b, b ∈ many.batches :=
    BatchedPlayback.exists_mem_run settings' tools' hne cs
  have hcursor : one.cursor = .after cs := Playback.cursor_run rfl cs
  have hcells' : cells.cursor = .after cs := VoxelPlayback.cursor_run g rfl cs
  refine ⟨⟨?_, ?_, ⟨b, hb⟩, fun b hb => ?_⟩, fun x => ?_⟩
  · rw [hcursor, offset_after]
  · rw [hcells', offset_after]
  · rw [(BatchedPlayback.batch_run hb).1, offset_after]
  · have hkind : (one.advance x).2 = (after cs).kind scrub x := by
      rw [Playback.advance_snd_run rfl, ← hone]
      rfl
    have hbatches : (many.advance x).2 = (after cs).kind scrub x :=
      BatchedPlayback.advance_snd_eq hb fun b hb => by
        rw [(BatchedPlayback.batch_run hb).2, hmany]
    have hgrid : (cells.advance g x).2 = (after cs).kind scrub x := by
      rw [VoxelPlayback.advance_snd_run g rfl, ← hcells]
      rfl
    refine ⟨by rw [hbatches, hkind], by rw [hgrid, hkind], ?_⟩
    rw [hkind, kind_eq_fullPass_iff, offset_after, redraw_after]

theorem players_agree_redraw :
    let settings : Settings := { playback := { scrubDistance := 5 } }
    let settings' : Settings := { playback := { scrubDistance := 5, batchSize := 1 } }
    let store : Store := .ofSegments [.dot 4, .dot 9]
    let g : VoxelGrid := .ofSegments ⟨1.0, 1.0⟩ .standard #[.dot 700]
    let cs : List Control := [.advance 9, .advance 14, .forceRedraw, .tick]
    let one := (Playback.ofSegments settings .standard []).run cs
    let many := (BatchedPlayback.ofStore settings' .standard store).run cs
    let cells := (VoxelPlayback.ofGrid g settings).run g cs
    0 < store.size ∧ (one.advance 14).2 = .fullPass ∧ (many.advance 14).2 = .fullPass ∧
      (cells.advance g 14).2 = .fullPass ∧ cells.cursor.offset = some 14 := by
  intro settings settings' store g cs one many cells
  have hne : 0 < store.size := by decide
  have hscrub : settings.playback.scrubDistance = 5 := rfl
  have hscrub' : settings'.playback.scrubDistance = 5 := rfl
  obtain ⟨⟨-, hoffset, -⟩, hkind⟩ :=
    players_agree hscrub hscrub' hscrub .standard .standard [] hne g cs
  obtain ⟨hmany, hcells, hfull⟩ := hkind 14
  have hone := hfull.mpr (Or.inr (Or.inl ⟨[.advance 9, .advance 14], [.tick], rfl, by decide⟩))
  exact ⟨hne, hone, hmany.trans hone, hcells.trans hone, hoffset⟩

end Cursor
end Toolpath
