import Toolpath.Proofs.Playback.Coherence

/-! A player over one slice of the clips moves like the player over all of them. -/

namespace Toolpath

variable {α β : Type}

def slice (n j : Nat) (items : Array α) : Array α := items.extract (j * n) (j * n + n)

lemma getElem?_slice (n j : Nat) (items : Array α) (i : Nat) :
    (slice n j items)[i]? = if i < n then items[j * n + i]? else none := by
  rw [slice, Array.getElem?_extract]
  split
  · rw [if_pos (by omega)]
  · split
    · rw [Array.getElem?_eq_none (by omega)]
    · rfl

lemma slice_map (n j : Nat) (f : α → β) (items : Array α) :
    slice n j (items.map f) = (slice n j items).map f :=
  Array.map_extract.symm

lemma foldl_slices (q : α → Bool) {n : Nat} (f : β → Nat) (bs : List β) (items : List α)
    (hf : ∀ j b, bs[j]? = some b → f b = ((items.drop (j * n)).take n).countP q)
    (hc : items.length ≤ bs.length * n) (start : Nat) :
    bs.foldl (fun total b => total + f b) start = start + items.countP q := by
  induction bs generalizing items start with
  | nil =>
    have : items = [] := List.eq_nil_of_length_eq_zero (by simpa using hc)
    simp [this]
  | cons b bs ih =>
    have hb : f b = (items.take n).countP q := by simpa using hf 0 b rfl
    have ht : bs.foldl (fun total b => total + f b) (start + f b) =
        start + f b + (items.drop n).countP q := by
      apply ih
      · intro j b hj
        rw [hf (j + 1) b hj, List.drop_drop, Nat.succ_mul, Nat.add_comm n]
      · rw [List.length_cons, Nat.succ_mul] at hc
        rw [List.length_drop]
        omega
    rw [List.foldl_cons, ht, hb, Nat.add_assoc, ← List.countP_append, List.take_append_drop]

namespace Playback

structure Slice (n j : Nat) (one b : Playback) : Prop where
  coherent : b.Coherent
  look : b.look = one.look
  cursor : b.cursor = one.cursor
  clips : b.clips = slice n j one.clips
  states : b.states = slice n j one.states

namespace Slice

variable {n j : Nat} {one b : Playback}

lemma getElem?_clips (h : Slice n j one b) {i : Nat} (hi : i < n) :
    b.clips[i]? = one.clips[j * n + i]? := by
  rw [h.clips, getElem?_slice, if_pos hi]

lemma passed (h : Slice n j one b) : b.passed = one.passed := by
  funext c
  rw [Playback.passed, Playback.passed, h.cursor]

lemma horizon (h : Slice n j one b) (x : Nat) : b.horizon x = one.horizon x := by
  rw [Playback.horizon, Playback.horizon, h.look]

lemma lt_partition_iff (h : Slice n j one b) (ho : one.Coherent) {i : Nat} {c : Clip} (hi : i < n)
    (hc : one.clips[j * n + i]? = some c) (x : Nat) :
    i < b.partition x ↔ j * n + i < one.partition x := by
  rw [ho.lt_partition_iff hc, h.coherent.lt_partition_iff ((h.getElem?_clips hi).trans hc)]

lemma lt_revealed_iff (h : Slice n j one b) (ho : one.Coherent) {i : Nat} {c : Clip} (hi : i < n)
    (hc : one.clips[j * n + i]? = some c) : i < b.revealed ↔ j * n + i < one.revealed := by
  rw [ho.lt_revealed_iff hc, h.coherent.lt_revealed_iff ((h.getElem?_clips hi).trans hc), h.passed]

lemma freshState (h : Slice n j one b) {i : Nat} (hi : i < n) :
    b.freshState i = one.freshState (j * n + i) := by
  rw [Playback.freshState, Playback.freshState, animates, animates, role?, role?, h.look,
    h.getElem?_clips hi]

lemma states_of (h : Slice n j one b) (ho : one.Coherent) {b' one' : Array RevealState}
    {f g : Nat → RevealState → RevealState} (hb : ∀ i, b'[i]? = b.states[i]?.map (f i))
    (hone : ∀ i, one'[i]? = one.states[i]?.map (g i))
    (hfg : ∀ i c, i < n → one.clips[j * n + i]? = some c → f i = g (j * n + i)) :
    b' = slice n j one' := by
  apply Array.ext_getElem?
  intro i
  rw [hb, h.states, getElem?_slice, getElem?_slice, hone]
  split
  · next hi =>
    cases hs : one.states[j * n + i]? with
    | none => rfl
    | some s =>
      obtain ⟨hlt, _⟩ := Array.getElem?_eq_some_iff.mp hs
      rw [hfg i _ hi (Array.getElem?_eq_getElem (ho.size_states ▸ hlt))]
  · rfl

lemma fullPass (h : Slice n j one b) (ho : one.Coherent) (x : Nat) :
    Slice n j (one.fullPass x) (b.fullPass x) where
  coherent := h.coherent.fullPass x
  look := h.look
  cursor := rfl
  clips := h.clips
  states := by
    apply h.states_of ho (b.getElem?_states_fullPass x) (one.getElem?_states_fullPass x)
    intro i c hi hc
    have hr := h.lt_partition_iff ho hi hc x
    have hl := h.lt_partition_iff ho hi hc (one.horizon x)
    funext _
    simp only [restState, aheadState, h.horizon, hr, hl]

lemma incremental (h : Slice n j one b) (ho : one.Coherent) (x : Nat) :
    Slice n j (one.incremental x) (b.incremental x) where
  coherent := h.coherent.incremental x
  look := h.look
  cursor := rfl
  clips := h.clips
  states := by
    apply h.states_of ho (h.coherent.getElem?_states_incremental x)
      (ho.getElem?_states_incremental x)
    intro i c hi hc
    have hp := h.lt_partition_iff ho hi hc x
    have hl := h.lt_partition_iff ho hi hc (one.horizon x)
    have hr := h.lt_revealed_iff ho hi hc
    funext s
    simp only [aheadState, h.horizon, h.freshState hi, hp, hl, hr]

lemma kind (h : Slice n j one b) (x : Nat) : (b.advance x).2 = (one.advance x).2 := by
  rw [advance_eq, advance_eq, h.cursor, h.look]

lemma advance (h : Slice n j one b) (ho : one.Coherent) (x : Nat) :
    Slice n j (one.advance x).1 (b.advance x).1 := by
  rw [advance_eq, advance_eq, h.cursor, h.look]
  cases one.cursor.kind one.look.playing.scrubDistance x with
  | fullPass => exact h.fullPass ho x
  | incremental => exact h.incremental ho x

lemma tick (h : Slice n j one b) (ho : one.Coherent) : Slice n j one.tick.1 b.tick.1 where
  coherent := h.coherent.tick
  look := h.look
  cursor := h.cursor
  clips := h.clips
  states := by
    rw [tick_states h.coherent.listed, tick_states ho.listed, slice_map, h.states]

lemma forceRedraw (h : Slice n j one b) : Slice n j one.forceRedraw b.forceRedraw where
  coherent := h.coherent.forceRedraw
  look := h.look
  cursor := congrArg Cursor.forceRedraw h.cursor
  clips := h.clips
  states := h.states

end Slice
end Playback
end Toolpath
