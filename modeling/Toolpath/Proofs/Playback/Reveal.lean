import Toolpath.Proofs.Playback.Coherence

/-! What is revealed depends on the offset of the last advance alone. -/

namespace Toolpath
namespace Playback

namespace Coherent

variable {p : Playback} {x i : Nat} {c : Clip}

lemma state_iff (h : p.Coherent) (hx : p.cursor.offset = some x) (hc : p.clips[i]? = some c)
    {s : RevealState} (hs : p.state? i = some s) :
    (s.isRevealed ↔ c.offset ≤ x) ∧
      (s = .lookAhead ↔ x < c.offset ∧ c.offset ≤ p.horizon x) ∧
      (s = .hidden ↔ ¬ c.offset ≤ x ∧ ¬ (x < c.offset ∧ c.offset ≤ p.horizon x)) := by
  have hr : i < p.revealed ↔ c.offset ≤ x := by
    rw [h.lt_revealed_iff hc, passed_eq hx, decide_eq_true_iff]
  have hl : i < p.lookAheadEnd ↔ c.offset ≤ p.horizon x := by
    rw [h.lookAheadEnd_eq_partition hx, h.lt_partition_iff hc]
  by_cases hi : i < p.revealed
  · have hb := h.behind i s hi hs
    have hne : s ≠ .lookAhead ∧ s ≠ .hidden := by constructor <;> rintro rfl <;> cases hb
    have := hr.mp hi
    simp only [hb, hne.1, hne.2, true_iff, false_iff]
    omega
  · have hst := h.ahead i s (Nat.not_lt.mp hi) hs
    have hgt : x < c.offset := Nat.lt_of_not_le fun hle => hi (hr.mpr hle)
    rw [aheadState] at hst
    split at hst
    · next he =>
      have := hl.mp he
      subst hst
      simp [RevealState.isRevealed, hgt, this]
    · next he =>
      have : p.horizon x < c.offset := Nat.lt_of_not_le fun hle => he (hl.mpr hle)
      subst hst
      simp [RevealState.isRevealed, hgt, this]

end Coherent

theorem run_reveals (settings : Settings) (tools : ToolTable) {segments : List Segment}
    (h : Streamed segments) {cs : List Control} {x : Nat}
    (hx : Control.lastOffset? cs = some x) :
    let p := (ofSegments settings tools segments).run cs
    p.revealed = segments.countP (·.offset ≤ x) ∧
      ∀ i s, segments[i]? = some s →
        ∃ state, p.state? i = some state ∧ p.isRevealed i = state.isRevealed ∧
          (state.isRevealed ↔ s.offset ≤ x) ∧
          (state = .lookAhead ↔ x < s.offset ∧
            s.offset ≤ min (x + settings.playback.lookAhead) Stamp.maxOffset) ∧
          (state = .hidden ↔ ¬ s.offset ≤ x ∧ ¬ (x < s.offset ∧
            s.offset ≤ min (x + settings.playback.lookAhead) Stamp.maxOffset)) := by
  intro p
  have hp : p.Coherent := (Coherent.ofSegments settings tools h).run cs
  have hcur : p.cursor.offset = some x := by rw [run_offset, hx]; rfl
  have hclips : p.clips = (ofSegments settings tools segments).clips := run_clips _ cs
  have hlook : p.look = .ofSettings settings := run_look _ cs
  constructor
  · rw [hp.revealed_eq, passed_eq hcur, hclips]
    exact List.countP_toArray.trans List.countP_map
  · intro i s hs
    have hc : p.clips[i]? = some (Clip.ofSegment tools s) := by
      rw [hclips, getElem?_clips_ofSegments, hs]
      rfl
    obtain ⟨state, hst⟩ := hp.exists_state hc
    have := hp.state_iff hcur hc hst
    rw [horizon, hlook] at this
    exact ⟨state, hst, by rw [isRevealed, ← state?, hst]; rfl, this⟩

theorem run_reveals_dots :
    let segments : List Segment := [.dot 4, .dot 4, .dot 9, .dot 700]
    let cs : List Control := [.advance 9, .tick, .advance 4, .forceRedraw, .tick]
    let p := (ofSegments {} .standard segments).run cs
    Streamed segments ∧ Control.lastOffset? cs = some 4 ∧ p.revealed = 2 ∧
      ∃ state, p.state? 2 = some state ∧ (state = .lookAhead ↔ 4 < 9 ∧ 9 ≤ 504) := by
  intro segments cs p
  have h : Streamed segments := by decide
  have hx : Control.lastOffset? cs = some 4 := rfl
  obtain ⟨hcount, hstates⟩ := run_reveals {} .standard h hx
  obtain ⟨state, hst, _, _, hahead, _⟩ := hstates 2 (.dot 9) rfl
  exact ⟨h, hx, hcount, state, hst, hahead⟩

end Playback
end Toolpath
