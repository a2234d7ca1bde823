import Toolpath.Proofs.Playback.Slice
import Toolpath.Proofs.Segment.Batches

/-! Playback in batches shows what one player over all segments shows, whatever the batch size. -/

namespace Toolpath
namespace BatchedPlayback

open Playback (Slice Coherent)

structure Divides (many : BatchedPlayback) (one : Playback) : Prop where
  coherent : one.Coherent
  pos : 0 < many.batchSize
  slices : ∀ j b, many.batches[j]? = some b → Slice many.batchSize j one b
  cover : one.size ≤ many.batches.size * many.batchSize

namespace Divides

variable {many : BatchedPlayback} {one : Playback}

lemma exists_slice (h : Divides many one) {b : Playback} (hb : b ∈ many.batches) :
    ∃ j, Slice many.batchSize j one b := by
  obtain ⟨j, hj⟩ := Array.mem_iff_getElem?.mp hb
  exact ⟨j, h.slices j b hj⟩

lemma exists_batch (h : Divides many one) (hne : 0 < one.size) : ∃ b, b ∈ many.batches := by
  have hpos : 0 < many.batches.size := by
    by_contra hz
    have := h.cover
    rw [Nat.eq_zero_of_not_pos hz, Nat.zero_mul] at this
    omega
  exact ⟨many.batches[0], Array.getElem_mem hpos⟩

lemma locate_cases (h : Divides many one) (i : Nat) :
    (∃ b k, many.locate i = some (b, k) ∧ b.states[k]? = one.states[i]? ∧
        b.clips[k]? = one.clips[i]? ∧ b.look = one.look) ∨
      (many.locate i = none ∧ one.states[i]? = none) := by
  have hk := Nat.mod_lt i h.pos
  have hi : i / many.batchSize * many.batchSize + i % many.batchSize = i := Nat.div_add_mod' ..
  cases hb : many.batches[i / many.batchSize]? with
  | some b =>
    have hs := h.slices _ b hb
    refine Or.inl ⟨b, i % many.batchSize, by rw [locate, hb]; rfl, ?_, ?_, hs.look⟩
    · rw [hs.states, getElem?_slice, if_pos hk, hi]
    · rw [hs.getElem?_clips hk, hi]
  | none =>
    refine Or.inr ⟨by rw [locate, hb]; rfl, Array.getElem?_eq_none ?_⟩
    have hle := Nat.mul_le_mul_right many.batchSize (Array.getElem?_eq_none_iff.mp hb)
    calc one.states.size ≤ many.batches.size * many.batchSize := h.cover
      _ ≤ i / many.batchSize * many.batchSize := hle
      _ ≤ i := Nat.div_mul_le_self ..

lemma state? (h : Divides many one) (i : Nat) : many.state? i = one.state? i := by
  rcases h.locate_cases i with ⟨b, k, hl, hs, -, -⟩ | ⟨hl, hs⟩
  · rw [BatchedPlayback.state?, hl]
    exact hs
  · rw [BatchedPlayback.state?, hl]
    exact hs.symm

lemma isRevealed (h : Divides many one) (i : Nat) : many.isRevealed i = one.isRevealed i := by
  rcases h.locate_cases i with ⟨b, k, hl, hs, -, -⟩ | ⟨hl, hs⟩
  · rw [BatchedPlayback.isRevealed, hl, Playback.isRevealed, ← hs]
    rfl
  · rw [BatchedPlayback.isRevealed, hl, Playback.isRevealed, hs]
    rfl

lemma appearance (h : Divides many one) (i : Nat) : many.appearance i = one.appearance i := by
  rcases h.locate_cases i with ⟨b, k, hl, hs, hc, hlook⟩ | ⟨hl, hs⟩
  · rw [BatchedPlayback.appearance, hl]
    dsimp only
    rw [Playback.appearance, Playback.appearance, hs, hc, hlook]
  · rw [BatchedPlayback.appearance, hl, Playback.appearance, hs]

lemma foldl_counts {α : Type} (h : Divides many one) (q : α → Bool) (items : Array α)
    (f : Playback → Nat) (hsize : items.size = one.size)
    (hf : ∀ j b, Slice many.batchSize j one b → f b = (slice many.batchSize j items).countP q) :
    many.batches.foldl (fun total b => total + f b) 0 = items.countP q := by
  rw [← Array.foldl_toList, ← Array.countP_toList, ← Nat.zero_add (List.countP _ _)]
  apply foldl_slices
  · intro j b hb
    rw [hf j b (h.slices j b (by simpa using hb)), ← Array.countP_toList, slice,
      Array.toList_extract, List.extract_eq_take_drop, Nat.add_sub_cancel_left]
  · simpa [hsize] using h.cover

lemma revealed (h : Divides many one) : many.revealed = one.revealed := by
  rw [h.coherent.revealed_eq]
  apply h.foldl_counts one.passed one.clips _ h.coherent.size_states.symm
  intro j b hb
  rw [hb.coherent.revealed_eq, hb.passed, hb.clips]

lemma kind (h : Divides many one) (hne : 0 < one.size) (x : Nat) :
    (many.advance x).2 = (one.advance x).2 := by
  have hk : ∀ b ∈ many.batches, (b.advance x).2 = (one.advance x).2 := by
    intro b hb
    obtain ⟨j, hs⟩ := h.exists_slice hb
    exact hs.kind x
  obtain ⟨b, hb⟩ := h.exists_batch hne
  exact advance_snd_eq hb hk

lemma count (h : Divides many one) : many.tick.2 = one.tick.2 := by
  rw [BatchedPlayback.tick, Playback.tick_count h.coherent.listed]
  dsimp only
  rw [Array.foldl_map]
  apply h.foldl_counts RevealState.isHighlight one.tick.1.states
  · rw [Playback.tick_states h.coherent.listed, Array.size_map]
    rfl
  · intro j b hb
    rw [Playback.tick_count hb.coherent.listed, (hb.tick h.coherent).states]

lemma map (h : Divides many one) (f : Playback → Playback) (hsize : (f one).size = one.size)
    (hcoh : (f one).Coherent)
    (hf : ∀ j b, Slice many.batchSize j one b → Slice many.batchSize j (f one) (f b)) :
    Divides { many with batches := many.batches.map f } (f one) where
  coherent := hcoh
  pos := h.pos
  slices j b hb := by
    rw [Array.getElem?_map, Option.map_eq_some_iff] at hb
    obtain ⟨c, hc, rfl⟩ := hb
    exact hf j c (h.slices j c hc)
  cover := by
    rw [hsize, Array.size_map]
    exact h.cover

lemma size_eq (h : Divides many one) {one' : Playback} (hc : one'.Coherent)
    (he : one'.clips = one.clips) : one'.size = one.size := by
  rw [Playback.size, Playback.size, hc.size_states, h.coherent.size_states, he]

lemma handle (h : Divides many one) (c : Control) :
    Divides (many.handle c).1 (one.handle c).1 := by
  have hcoh := h.coherent.handle c
  have hsize := h.size_eq hcoh (one.handle_clips c)
  cases c with
  | advance x =>
    rw [BatchedPlayback.handle, advance_fst]
    exact h.map (fun p => (p.advance x).1) hsize hcoh fun j b hb => hb.advance h.coherent x
  | tick =>
    rw [BatchedPlayback.handle, tick_fst]
    exact h.map (fun p => p.tick.1) hsize hcoh fun j b hb => hb.tick h.coherent
  | forceRedraw => exact h.map (·.forceRedraw) hsize hcoh fun j b hb => hb.forceRedraw

lemma run (h : Divides many one) (cs : List Control) : Divides (many.run cs) (one.run cs) := by
  induction cs using List.reverseRecOn with
  | nil => exact h
  | append_singleton cs c ih =>
    rw [run_concat, Playback.run_concat]
    exact ih.handle c

lemma reply (h : Divides many one) (hne : 0 < one.size) (c : Control) :
    (many.handle c).2 = (one.handle c).2 := by
  cases c with
  | advance x => exact congrArg Reply.advanced (h.kind hne x)
  | tick => exact congrArg Reply.ticked h.count
  | forceRedraw => rfl

end Divides

lemma slice_ofSegments (settings : Settings) (tools : ToolTable) {segments : List Segment}
    (h : Streamed segments) (n j : Nat) :
    Slice n j (Playback.ofSegments settings tools segments)
      (Playback.ofSegments settings tools ((segments.drop (j * n)).take n)) where
  coherent := by
    apply Coherent.ofSegments
    exact h.sublist ((List.take_sublist ..).trans (List.drop_sublist ..))
  look := rfl
  cursor := rfl
  clips := by
    apply Array.ext_getElem?
    intro i
    rw [getElem?_slice, Playback.getElem?_clips_ofSegments, Playback.getElem?_clips_ofSegments,
      List.getElem?_take, List.getElem?_drop]
    split <;> rfl
  states := by
    apply Array.ext_getElem?
    intro i
    rw [getElem?_slice]
    simp only [Playback.ofSegments, Playback.ofClips, Array.getElem?_replicate, List.size_toArray,
      List.length_map, List.length_take, List.length_drop]
    grind

lemma divides_ofStore (settings : Settings) (tools : ToolTable) {store : Store}
    (h : Streamed store.segments.toList) :
    Divides (ofStore settings tools store)
      (Playback.ofSegments settings tools store.segments.toList) where
  coherent := Coherent.ofSegments settings tools h
  pos := batchSize_pos settings tools store
  slices j b hb := by
    rw [getElem?_batches_ofStore] at hb
    split at hb
    · obtain rfl := Option.some.inj hb
      exact slice_ofSegments settings tools h _ j
    · cases hb
  cover := by
    have hc := (Coherent.ofSegments settings tools h).size_states
    rw [Playback.size_clips_ofSegments, Array.length_toList] at hc
    rw [Playback.size, hc]
    exact size_le_batches_ofStore settings tools store

theorem run_agrees (settings : Settings) (tools : ToolTable) {store : Store}
    (h : Streamed store.segments.toList) (hne : 0 < store.size) (cs : List Control) :
    let many := (ofStore settings tools store).run cs
    let one := (Playback.ofSegments settings tools store.segments.toList).run cs
    (∀ i, many.state? i = one.state? i ∧ many.isRevealed i = one.isRevealed i ∧
        many.appearance i = one.appearance i) ∧
      many.revealed = one.revealed ∧ ∀ c, (many.handle c).2 = (one.handle c).2 := by
  intro many one
  have hd : Divides many one := (divides_ofStore settings tools h).run cs
  have hsize : 0 < one.size := by
    rw [Playback.size, hd.coherent.size_states, Playback.run_clips,
      Playback.size_clips_ofSegments, Array.length_toList]
    exact hne
  exact ⟨fun i => ⟨hd.state? i, hd.isRevealed i, hd.appearance i⟩, hd.revealed, hd.reply hsize⟩

theorem run_agrees_dots :
    let settings : Settings := { playback := { batchSize := 2 } }
    let store : Store := .ofSegments [.dot 4, .dot 4, .dot 9]
    let cs : List Control := [.advance 9, .tick, .forceRedraw]
    let many := (ofStore settings .standard store).run cs
    let one := (Playback.ofSegments settings .standard store.segments.toList).run cs
    Streamed store.segments.toList ∧ 0 < store.size ∧ many.revealed = one.revealed ∧
      many.state? 2 = one.state? 2 ∧ (many.handle (.advance 4)).2 = (one.handle (.advance 4)).2 := by
  intro settings store cs many one
  have h : Streamed store.segments.toList := by decide
  have hne : 0 < store.size := by decide
  obtain ⟨hstates, hcount, hreply⟩ := run_agrees settings .standard h hne cs
  exact ⟨h, hne, hcount, (hstates 2).1, hreply (.advance 4)⟩

end BatchedPlayback
end Toolpath
