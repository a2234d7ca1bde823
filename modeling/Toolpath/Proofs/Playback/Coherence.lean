import Toolpath.Proofs.Playback.Control
import Toolpath.Proofs.Playback.Ticks
import Toolpath.Proofs.Segment.Stream

/-! The marks of a player count clips by their offsets, and its states lie between the marks. Every
control keeps this, whichever way an advance takes. -/

namespace Toolpath

namespace Playback

def passed (p : Playback) (c : Clip) : Bool := p.cursor.offset.any (c.offset ≤ ·)

def sighted (p : Playback) (c : Clip) : Bool := p.cursor.offset.any fun x => c.offset ≤ p.horizon x

structure Coherent (p : Playback) : Prop where
  ordered : InOrder Clip.offset p.clips.toList
  fits : ∀ c ∈ p.clips, c.offset ≤ Stamp.maxOffset
  size_states : p.states.size = p.clips.size
  revealed_eq : p.revealed = p.clips.countP p.passed
  lookAheadEnd_eq : p.lookAheadEnd = p.clips.countP p.sighted
  behind : ∀ i s, i < p.revealed → p.states[i]? = some s → s.isRevealed
  ahead : ∀ i s, p.revealed ≤ i → p.states[i]? = some s → s = aheadState p.lookAheadEnd i
  listed : p.Listed

lemma leads_passed {p : Playback} (h : InOrder Clip.offset p.clips.toList) :
    Leads p.passed p.clips.toList := by
  refine h.imp ?_
  intro a b hab hb
  obtain ⟨x, hx, hle⟩ := (Option.any_eq_true _ _).mp hb
  refine (Option.any_eq_true _ _).mpr ⟨x, hx, ?_⟩
  exact decide_eq_true (Nat.le_trans hab (of_decide_eq_true hle))

lemma partition_eq {p : Playback} (h : InOrder Clip.offset p.clips.toList) (x : Nat) :
    p.partition x = p.clips.countP (fun c => c.offset ≤ x) :=
  partitionPoint_eq_countP (h.leads x)

lemma le_horizon {p : Playback} {n x : Nat} (hn : n ≤ Stamp.maxOffset) (hx : n ≤ x) :
    n ≤ p.horizon x := by
  rw [horizon]
  omega

@[simp] lemma aheadState_isHighlight (e i : Nat) : (aheadState e i).isHighlight = false := by
  rw [aheadState]
  split <;> rfl

@[simp] lemma freshState_isRevealed (p : Playback) (i : Nat) : (p.freshState i).isRevealed := by
  rw [freshState]
  split <;> rfl

lemma freshState_isHighlight (p : Playback) (i : Nat) :
    (p.freshState i).isHighlight = p.animates i := by
  rw [freshState]
  cases p.animates i <;> rfl

lemma restState_isHighlight (r e i : Nat) : (restState r e i).isHighlight = false := by
  rw [restState]
  split
  · rfl
  · exact aheadState_isHighlight e i

@[simp] lemma revealed_fullPass (p : Playback) (x : Nat) :
    (p.fullPass x).revealed = p.partition x := rfl

@[simp] lemma lookAheadEnd_fullPass (p : Playback) (x : Nat) :
    (p.fullPass x).lookAheadEnd = p.partition (p.horizon x) := rfl

@[simp] lemma revealed_incremental (p : Playback) (x : Nat) :
    (p.incremental x).revealed = p.partition x := rfl

@[simp] lemma lookAheadEnd_incremental (p : Playback) (x : Nat) :
    (p.incremental x).lookAheadEnd = p.partition (p.horizon x) := rfl

lemma getElem?_states_fullPass (p : Playback) (x i : Nat) :
    (p.fullPass x).states[i]? =
      p.states[i]?.map fun _ => restState (p.partition x) (p.partition (p.horizon x)) i :=
  Array.getElem?_mapIdx

lemma passed_eq {p : Playback} {x : Nat} (hx : p.cursor.offset = some x) :
    p.passed = fun c => decide (c.offset ≤ x) := by
  funext c
  rw [passed, hx, Option.any_some]

lemma getElem?_clips_ofSegments (settings : Settings) (tools : ToolTable) (segments : List Segment)
    (i : Nat) :
    (ofSegments settings tools segments).clips[i]? = segments[i]?.map (Clip.ofSegment tools) := by
  change (segments.map (Clip.ofSegment tools)).toArray[i]? = _
  rw [List.getElem?_toArray, List.getElem?_map]

lemma size_clips_ofSegments (settings : Settings) (tools : ToolTable) (segments : List Segment) :
    (ofSegments settings tools segments).clips.size = segments.length := by
  simp [ofSegments, ofClips]

namespace Coherent

variable {p : Playback}

lemma ofClips (look : Look) {clips : Array Clip} (ho : InOrder Clip.offset clips.toList)
    (hf : ∀ c ∈ clips, c.offset ≤ Stamp.maxOffset) : (Playback.ofClips look clips).Coherent where
  ordered := ho
  fits := hf
  size_states := Array.size_replicate
  revealed_eq := (Array.countP_eq_zero.mpr (by simp [passed, Playback.ofClips])).symm
  lookAheadEnd_eq := (Array.countP_eq_zero.mpr (by simp [sighted, Playback.ofClips])).symm
  behind i s hi hs := absurd hi (Nat.not_lt_zero i)
  ahead i s hi hs := by
    have := Array.mem_of_getElem? hs
    simpa [aheadState, Playback.ofClips] using (Array.mem_replicate.mp this).2
  listed i hi := by
    cases hs : (Playback.ofClips look clips).states[i]? with
    | none => simp [hs] at hi
    | some s =>
      have := (Array.mem_replicate.mp (Array.mem_of_getElem? hs)).2
      simp [hs, this, RevealState.isHighlight] at hi

lemma partition_le_horizon (h : p.Coherent) (x : Nat) :
    p.partition x ≤ p.partition (p.horizon x) := by
  rw [partition_eq h.ordered, partition_eq h.ordered]
  apply Array.countP_mono_left
  intro c hc hx
  exact decide_eq_true (le_horizon (h.fits c hc) (of_decide_eq_true hx))

lemma revealed_le (h : p.Coherent) : p.revealed ≤ p.lookAheadEnd := by
  rw [h.revealed_eq, h.lookAheadEnd_eq]
  apply Array.countP_mono_left
  intro c hc hp
  obtain ⟨x, hx, hle⟩ := (Option.any_eq_true _ _).mp hp
  refine (Option.any_eq_true _ _).mpr ⟨x, hx, ?_⟩
  exact decide_eq_true (le_horizon (h.fits c hc) (of_decide_eq_true hle))

lemma getElem?_states_incremental (h : p.Coherent) (x i : Nat) :
    (p.incremental x).states[i]? = p.states[i]?.map fun s =>
      if i < p.partition x then if i < p.revealed then s else p.freshState i
      else aheadState (p.partition (p.horizon x)) i := by
  have hm := h.partition_le_horizon x
  have hr := h.revealed_le
  rw [incremental, getElem?_fillRange, getElem?_fillRange]
  cases hs : p.states[i]? with
  | none => simp
  | some s =>
    have ha := h.ahead i s
    grind [aheadState]

lemma lt_partition_iff (h : p.Coherent) {i : Nat} {c : Clip} (hc : p.clips[i]? = some c) (x : Nat) :
    i < p.partition x ↔ c.offset ≤ x := by
  rw [partition_eq h.ordered, (h.ordered.leads x).lt_countP_iff hc, decide_eq_true_iff]

lemma lt_revealed_iff (h : p.Coherent) {i : Nat} {c : Clip} (hc : p.clips[i]? = some c) :
    i < p.revealed ↔ p.passed c := by
  rw [h.revealed_eq, (leads_passed h.ordered).lt_countP_iff hc]

lemma lookAheadEnd_eq_partition (h : p.Coherent) {x : Nat} (hx : p.cursor.offset = some x) :
    p.lookAheadEnd = p.partition (p.horizon x) := by
  rw [h.lookAheadEnd_eq, partition_eq h.ordered]
  congr 1
  funext c
  rw [sighted, hx, Option.any_some]

lemma exists_state (h : p.Coherent) {i : Nat} {c : Clip} (hc : p.clips[i]? = some c) :
    ∃ s, p.state? i = some s := by
  obtain ⟨hi, _⟩ := Array.getElem?_eq_some_iff.mp hc
  exact ⟨_, Array.getElem?_eq_getElem (h.size_states ▸ hi)⟩

lemma fullPass (h : p.Coherent) (x : Nat) : (p.fullPass x).Coherent where
  ordered := h.ordered
  fits := h.fits
  size_states := Array.size_mapIdx.trans h.size_states
  revealed_eq := partition_eq h.ordered x
  lookAheadEnd_eq := partition_eq h.ordered (p.horizon x)
  behind i s hi hs := by
    rw [getElem?_states_fullPass, Option.map_eq_some_iff] at hs
    obtain ⟨_, _, rfl⟩ := hs
    rw [revealed_fullPass] at hi
    rw [restState, if_pos hi]
    rfl
  ahead i s hi hs := by
    rw [getElem?_states_fullPass, Option.map_eq_some_iff] at hs
    obtain ⟨_, _, rfl⟩ := hs
    rw [revealed_fullPass] at hi
    rw [restState, if_neg (Nat.not_lt.mpr hi), lookAheadEnd_fullPass]
  listed i hi := by
    rw [getElem?_states_fullPass, Option.any_map] at hi
    simp [restState_isHighlight] at hi

lemma incremental (h : p.Coherent) (x : Nat) : (p.incremental x).Coherent where
  ordered := h.ordered
  fits := h.fits
  size_states := by
    rw [Playback.incremental, size_fillRange, size_fillRange]
    exact h.size_states
  revealed_eq := partition_eq h.ordered x
  lookAheadEnd_eq := partition_eq h.ordered (p.horizon x)
  behind i s hi hs := by
    rw [h.getElem?_states_incremental, Option.map_eq_some_iff] at hs
    obtain ⟨old, hold, rfl⟩ := hs
    rw [revealed_incremental] at hi
    rw [if_pos hi]
    split
    · next hr => exact h.behind i old hr hold
    · exact freshState_isRevealed p i
  ahead i s hi hs := by
    rw [h.getElem?_states_incremental, Option.map_eq_some_iff] at hs
    obtain ⟨old, hold, rfl⟩ := hs
    rw [revealed_incremental] at hi
    rw [if_neg (Nat.not_lt.mpr hi), lookAheadEnd_incremental]
  -- A highlight is an old one, which is still listed, or was started between the marks.
  listed i hi := by
    rw [h.getElem?_states_incremental, Option.any_map] at hi
    obtain ⟨old, hold, hs⟩ := (Option.any_eq_true _ _).mp hi
    change i ∈ p.animating ++ _
    rw [List.mem_append, List.mem_filter, List.mem_range'_1]
    split at hs
    · next hx =>
      split at hs
      · exact Or.inl (h.listed i (by simpa [hold] using hs))
      · next hr =>
        rw [freshState_isHighlight] at hs
        exact Or.inr ⟨by omega, hs⟩
    · simp at hs

lemma advance (h : p.Coherent) (x : Nat) : (p.advance x).1.Coherent := by
  rcases p.advance_cases x with he | he
  · exact he ▸ h.fullPass x
  · exact he ▸ h.incremental x

lemma tick (h : p.Coherent) : p.tick.1.Coherent where
  ordered := h.ordered
  fits := h.fits
  size_states := by rw [tick_states h.listed, Array.size_map, h.size_states]; rfl
  revealed_eq := h.revealed_eq
  lookAheadEnd_eq := h.lookAheadEnd_eq
  behind i s hi hs := by
    rw [tick_states h.listed, Array.getElem?_map, Option.map_eq_some_iff] at hs
    obtain ⟨old, hold, rfl⟩ := hs
    rw [RevealState.isRevealed_countDown]
    exact h.behind i old hi hold
  ahead i s hi hs := by
    rw [tick_states h.listed, Array.getElem?_map, Option.map_eq_some_iff] at hs
    obtain ⟨old, hold, rfl⟩ := hs
    have ho := h.ahead i old hi hold
    rw [RevealState.countDown_of_not_isHighlight (by rw [ho, aheadState_isHighlight]), ho]
    rfl
  listed := h.listed.tick

lemma forceRedraw (h : p.Coherent) : p.forceRedraw.Coherent where
  ordered := h.ordered
  fits := h.fits
  size_states := h.size_states
  revealed_eq := h.revealed_eq
  lookAheadEnd_eq := h.lookAheadEnd_eq
  behind := h.behind
  ahead := h.ahead
  listed := h.listed

lemma handle (h : p.Coherent) (c : Control) : (p.handle c).1.Coherent := by
  cases c with
  | advance x => exact h.advance x
  | tick => exact h.tick
  | forceRedraw => exact h.forceRedraw

lemma run (h : p.Coherent) (cs : List Control) : (p.run cs).Coherent :=
  run_induction h (fun _ c hq => hq.handle c) cs

lemma ofSegments (settings : Settings) (tools : ToolTable) {segments : List Segment}
    (h : Streamed segments) : (Playback.ofSegments settings tools segments).Coherent := by
  apply ofClips
  · simpa [InOrder, List.pairwise_map] using! h.ordered
  · simpa using! h.fits

end Coherent
end Playback
end Toolpath
