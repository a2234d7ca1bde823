import Toolpath.Proofs.Playback.Coherence

/-! Highlights. A segment that a small step reveals is highlighted for a fixed number of ticks, as long
as the cursor neither turns back behind it nor jumps. -/

namespace Toolpath
namespace Control

def isTick : Control → Bool
  | tick => true
  | advance _ | forceRedraw => false

def ticks (cs : List Control) : Nat := cs.countP isTick

end Control

namespace RevealState

def fading (total elapsed : Nat) : RevealState :=
  if elapsed < total then highlight (total - elapsed) else complete

@[simp] lemma fading_isRevealed (total elapsed : Nat) : (fading total elapsed).isRevealed := by
  rw [fading]
  split <;> rfl

lemma countDown_fading (total elapsed : Nat) :
    (fading total elapsed).countDown = fading total (elapsed + 1) := by
  rw [fading, fading]
  by_cases hlast : elapsed + 1 < total
  · rw [if_pos (Nat.lt_of_succ_lt hlast), if_pos hlast, countDown, if_pos (by omega), Nat.sub_sub]
  · rw [if_neg hlast]
    split
    · rw [countDown, if_neg (by omega)]
    · rfl

end RevealState

namespace Playback

open RevealState

/-- Controls whose advances are all small steps, none of them to before an offset. -/
inductive Glides (offset : Nat) : Playback → List Control → Prop
  | nil (p : Playback) : Glides offset p []
  | advance {p : Playback} {cs : List Control} (x : Nat) (hx : offset ≤ x)
    (hkind : (p.advance x).2 = .incremental) (h : Glides offset (p.advance x).1 cs) :
    Glides offset p (.advance x :: cs)
  | tick {p : Playback} {cs : List Control} (h : Glides offset p.tick.1 cs) :
    Glides offset p (.tick :: cs)
  | forceRedraw {p : Playback} {cs : List Control} (h : Glides offset p.forceRedraw cs) :
    Glides offset p (.forceRedraw :: cs)

lemma advance_incremental {p : Playback} {x : Nat} (h : (p.advance x).2 = .incremental) :
    (p.advance x).1 = p.incremental x := by
  rw [advance_eq] at h ⊢
  dsimp only at h ⊢
  rw [h]

lemma advance_fullPass {p : Playback} {x : Nat} (h : (p.advance x).2 = .fullPass) :
    (p.advance x).1 = p.fullPass x := by
  rw [advance_eq] at h ⊢
  dsimp only at h ⊢
  rw [h]

lemma not_isHighlight_fullPass (p : Playback) (x i : Nat) :
    ¬ ((p.fullPass x).states[i]?.any (·.isHighlight)) := by
  rw [getElem?_states_fullPass, Option.any_map]
  simp [restState_isHighlight]

lemma freshState_of_travel {p : Playback} {i : Nat}
    (h : p.role? i = some .travel ∨ p.look.playing.highlightTicks = 0) :
    p.freshState i = .complete := by
  rw [freshState, if_neg]
  rcases h with h | h <;> simp [animates, h]

lemma freshState_of_work {p : Playback} {i : Nat} (h : p.role? i ≠ some .travel) :
    p.freshState i = fading p.look.playing.highlightTicks 0 := by
  by_cases hnone : p.look.playing.highlightTicks = 0
  · rw [freshState_of_travel (Or.inr hnone), hnone]
    rfl
  · have hanimates : p.animates i := by simp [animates, hnone, h]
    rw [freshState, if_pos hanimates, fading, if_pos (Nat.pos_of_ne_zero hnone), Nat.sub_zero]

/-- Every highlight is one of work, with at least a tick left and no more than it began with. -/
def Lit (p : Playback) : Prop :=
  ∀ i n, p.states[i]? = some (.highlight n) →
    p.role? i ≠ some .travel ∧ 1 ≤ n ∧ n ≤ p.look.playing.highlightTicks

lemma lit_ofClips (look : Look) (clips : Array Clip) : (ofClips look clips).Lit := by
  intro i n hs
  cases (Array.mem_replicate.mp (Array.mem_of_getElem? hs)).2

lemma lit_fullPass (p : Playback) (x : Nat) : (p.fullPass x).Lit := by
  intro i n hs
  refine absurd ?_ (p.not_isHighlight_fullPass x i)
  rw [hs]
  rfl

namespace Coherent

variable {p : Playback} {i x : Nat} {s : RevealState}

lemma lt_revealed (h : p.Coherent) (hs : p.states[i]? = some s) (hr : s.isRevealed) :
    i < p.revealed := by
  by_contra hle
  have hahead := h.ahead i s (Nat.not_lt.mp hle) hs
  rw [hahead, aheadState] at hr
  split at hr <;> cases hr

lemma lit_incremental (h : p.Coherent) (hl : p.Lit) (x : Nat) : (p.incremental x).Lit := by
  intro i n hs
  rw [h.getElem?_states_incremental, Option.map_eq_some_iff] at hs
  obtain ⟨old, hold, hs⟩ := hs
  split at hs
  · split at hs
    · exact hl i n (hs ▸ hold)
    · have hanimates : p.animates i := by
        rw [← freshState_isHighlight, hs]
        rfl
      rw [freshState, if_pos hanimates] at hs
      obtain rfl := RevealState.highlight.inj hs
      obtain ⟨hticks, hrole⟩ := Bool.and_eq_true_iff.mp hanimates
      have hwork : p.role? i ≠ some .travel := by simpa using hrole
      exact ⟨hwork, Nat.pos_of_ne_zero (by simpa using hticks), Nat.le_refl _⟩
  · rw [aheadState] at hs
    split at hs <;> cases hs

lemma lit_tick (h : p.Coherent) (hl : p.Lit) : p.tick.1.Lit := by
  intro i n hs
  rw [tick_states h.listed, Array.getElem?_map, Option.map_eq_some_iff] at hs
  obtain ⟨old, hold, hs⟩ := hs
  cases old with
  | highlight left =>
    obtain ⟨hrole, hpos, hle⟩ := hl i left hold
    rw [countDown] at hs
    split at hs
    · obtain rfl := RevealState.highlight.inj hs
      exact ⟨hrole, by omega, Nat.le_trans (Nat.sub_le ..) hle⟩
    · cases hs
  | hidden | lookAhead | complete => cases hs

lemma lit_handle (h : p.Coherent) (hl : p.Lit) (c : Control) : (p.handle c).1.Lit := by
  cases c with
  | advance x =>
    rcases p.advance_cases x with he | he
    · exact he ▸ p.lit_fullPass x
    · exact he ▸ h.lit_incremental hl x
  | tick => exact h.lit_tick hl
  | forceRedraw => exact hl

lemma lit_run (h : p.Coherent) (hl : p.Lit) (cs : List Control) : (p.run cs).Lit :=
  (run_induction (P := fun q => q.Coherent ∧ q.Lit) ⟨h, hl⟩
    (fun _ c hq => ⟨hq.1.handle c, hq.1.lit_handle hq.2 c⟩) cs).2

lemma state?_of_reveal (h : p.Coherent) (hbefore : ¬ p.isRevealed i)
    (hafter : (p.incremental x).isRevealed i) :
    (p.incremental x).state? i = some (p.freshState i) := by
  rw [isRevealed, h.getElem?_states_incremental] at hafter
  rw [state?, h.getElem?_states_incremental]
  rw [isRevealed] at hbefore
  cases hs : p.states[i]? with
  | none => rw [hs] at hafter; cases hafter
  | some old =>
    rw [hs] at hbefore hafter
    rw [Option.map_some] at hafter ⊢
    split at hafter
    · split at hafter
      · exact absurd hafter hbefore
      · next hx hr => rw [if_pos hx, if_neg hr]
    · rw [aheadState] at hafter
      split at hafter <;> cases hafter

lemma state?_incremental (h : p.Coherent) {c : Clip} (hc : p.clips[i]? = some c)
    (hs : p.state? i = some s) (hr : s.isRevealed) (hx : c.offset ≤ x) :
    (p.incremental x).state? i = some s := by
  rw [state?] at hs
  rw [state?, h.getElem?_states_incremental, hs, Option.map_some,
    if_pos ((h.lt_partition_iff hc x).mpr hx), if_pos (h.lt_revealed hs hr)]

lemma state?_tick (h : p.Coherent) (hs : p.state? i = some s) :
    p.tick.1.state? i = some s.countDown := by
  rw [state?, tick_states h.listed, Array.getElem?_map]
  exact congrArg (Option.map countDown) hs

lemma state?_glides {cs : List Control} {c : Clip} {total elapsed : Nat}
    (hg : Glides c.offset p cs) (h : p.Coherent) (hc : p.clips[i]? = some c)
    (hs : p.state? i = some (fading total elapsed)) :
    (p.run cs).state? i = some (fading total (elapsed + Control.ticks cs)) := by
  -- along the glide only ticks change the state, each by one count
  induction hg generalizing elapsed with
  | nil p => exact hs
  | @advance p cs x hx hkind _ ih =>
    have hc' : (p.advance x).1.clips[i]? = some c := by
      rw [← hc]
      exact congrArg (·[i]?) (p.handle_clips (.advance x))
    have hs' : (p.advance x).1.state? i = some (fading total elapsed) := by
      rw [advance_incremental hkind]
      exact h.state?_incremental hc hs (fading_isRevealed ..) hx
    exact ih (h.advance x) hc' hs'
  | @tick p cs _ ih =>
    have hs' : p.tick.1.state? i = some (fading total (elapsed + 1)) := by
      rw [h.state?_tick hs, countDown_fading]
    have hcount : Control.ticks (.tick :: cs) = Control.ticks cs + 1 :=
      List.countP_cons_of_pos rfl
    rw [hcount, Nat.add_comm _ 1, ← Nat.add_assoc]
    exact ih h.tick hc hs'
  | forceRedraw _ ih => exact ih h.forceRedraw hc hs

end Coherent

lemma role?_ofSegments (settings : Settings) (tools : ToolTable) {segments : List Segment} {i : Nat}
    {s : Segment} (hs : segments[i]? = some s) :
    (ofSegments settings tools segments).role? i = some .travel ↔ s.isTravel := by
  rw [role?, getElem?_clips_ofSegments, hs]
  dsimp only [Option.map, Clip.ofSegment]
  rw [Role.ofSegment]
  split
  · next h => exact iff_of_true rfl h
  · next h =>
    refine iff_of_false ?_ h
    split <;> nofun

theorem run_highlights (settings : Settings) (tools : ToolTable) {segments : List Segment}
    (h : Streamed segments) (cs : List Control) :
    let total := settings.playback.highlightTicks
    let p := (ofSegments settings tools segments).run cs
    (∀ x i s, segments[i]? = some s → (p.advance x).2 = .incremental → ¬ p.isRevealed i →
      (p.advance x).1.isRevealed i →
        (s.isTravel ∨ total = 0 → (p.advance x).1.state? i = some .complete) ∧
        (¬ s.isTravel → 1 ≤ total → ∀ ds, Glides s.offset (p.advance x).1 ds →
          ((p.advance x).1.run ds).state? i =
            some (if Control.ticks ds < total then .highlight (total - Control.ticks ds)
              else .complete))) ∧
      (∀ i n, p.state? i = some (.highlight n) →
        1 ≤ n ∧ n ≤ total ∧ ∃ s, segments[i]? = some s ∧ ¬ s.isTravel) ∧
      (∀ x i n, (p.advance x).2 = .fullPass → (p.advance x).1.state? i ≠ some (.highlight n)) ∧
      p.tick.2 = p.tick.1.states.countP (·.isHighlight) := by
  intro total p
  have hnew := Coherent.ofSegments settings tools h
  have hp : p.Coherent := hnew.run cs
  have hclips : p.clips = (ofSegments settings tools segments).clips := run_clips _ cs
  have hlook : p.look = .ofSettings settings := run_look _ cs
  have htotal : p.look.playing.highlightTicks = total := by rw [hlook]; rfl
  have hrole {i : Nat} {s : Segment} (hs : segments[i]? = some s) :
      p.role? i = some .travel ↔ s.isTravel := by
    rw [← role?_ofSegments settings tools hs, role?, hclips]
    rfl
  refine ⟨fun x i s hs hkind hbefore hafter => ?_, fun i n hn => ?_, fun x i n hkind hn => ?_,
    tick_count hp.listed⟩
  · have hfresh : (p.advance x).1.state? i = some (p.freshState i) := by
      rw [advance_incremental hkind] at hafter ⊢
      exact hp.state?_of_reveal hbefore hafter
    rw [hfresh]
    refine ⟨fun hdone => ?_, fun hwork _ ds hg => ?_⟩
    · rw [freshState_of_travel (by rwa [hrole hs, htotal])]
    · rw [freshState_of_work (by rwa [ne_eq, hrole hs]), htotal] at hfresh
      have hc : (p.advance x).1.clips[i]? = some (Clip.ofSegment tools s) := by
        have hsame : (p.advance x).1.clips = p.clips := p.handle_clips (.advance x)
        rw [hsame, hclips, getElem?_clips_ofSegments, hs]
        rfl
      have hend := Coherent.state?_glides hg (hp.advance x) hc hfresh
      rwa [Nat.zero_add] at hend
  · obtain ⟨hwork, hpos, hle⟩ := hnew.lit_run (lit_ofClips _ _) cs i n hn
    obtain ⟨hi, _⟩ := Array.getElem?_eq_some_iff.mp hn
    have hlt : i < segments.length := by
      rw [← size_clips_ofSegments settings tools, ← hclips, ← hp.size_states]
      exact hi
    have hs := List.getElem?_eq_getElem hlt
    exact ⟨hpos, htotal ▸ hle, _, hs, (hrole hs).not.mp hwork⟩
  · rw [advance_fullPass hkind] at hn
    refine p.not_isHighlight_fullPass x i ?_
    rw [← state?, hn]
    rfl

theorem run_highlights_turn :
    let segments : List Segment := [.dot 4, { Segment.dot 4 with depositing := false }, .dot 9]
    let p := (ofSegments {} .standard segments).run [.advance 0, .advance 5, .advance 3]
    let q := (p.advance 5).1
    let ds : List Control := [.tick, .advance 9, .tick, .advance 4]
    Streamed segments ∧ p.animating = [0] ∧ q.animating = [0, 0] ∧
      (q.run ds).state? 0 = some (.highlight 3) ∧ q.state? 1 = some .complete ∧ q.tick.2 = 1 := by
  intro segments p q ds
  have h : Streamed segments := by decide
  have htwice : p.animating = [0] ∧ q.animating = [0, 0] := by decide +kernel
  have hbefore : ¬ p.isRevealed 0 ∧ ¬ p.isRevealed 1 := by decide +kernel
  have hafter : q.isRevealed 0 ∧ q.isRevealed 1 := by decide +kernel
  have hlisted : q.Listed := ((Coherent.ofSegments {} .standard h).run
    [.advance 0, .advance 5, .advance 3, .advance 5]).listed
  have hglide : Glides 4 q ds :=
    .tick (.advance 9 (by decide) rfl (.tick (.advance 4 (by decide) rfl (.nil _))))
  obtain ⟨hsteps, _⟩ := run_highlights {} .standard h [.advance 0, .advance 5, .advance 3]
  obtain ⟨_, _, _, hcount⟩ :=
    run_highlights {} .standard h [.advance 0, .advance 5, .advance 3, .advance 5]
  have hwork := (hsteps 5 0 (.dot 4) rfl rfl hbefore.1 hafter.1).2 (by decide) (by decide) ds hglide
  have htravel := (hsteps 5 1 _ rfl rfl hbefore.2 hafter.2).1 (Or.inl rfl)
  have hone : q.tick.1.states.countP (·.isHighlight) = 1 := by
    rw [tick_states hlisted]
    decide +kernel
  exact ⟨h, htwice.1, htwice.2, hwork, htravel, hcount.trans hone⟩

end Playback
end Toolpath
