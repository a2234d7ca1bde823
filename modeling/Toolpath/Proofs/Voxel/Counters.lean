import Toolpath.Proofs.Playback.Highlight
import Toolpath.Proofs.Playback.Scrubbing
import Toolpath.Proofs.Voxel.Log

/-! The counters of cells. Each tells how many ticks ago the cursor last stepped forward over an event
of its cell, up to the length of a highlight; a full pass forgets all the steps before it. -/

namespace Toolpath
namespace Control

def Throughout (P : List Control → Control → Prop) (past : List Control) : List Control → Prop
  | [] => True
  | c :: later => P past c ∧ Throughout P (past ++ [c]) later

lemma throughout_concat (P : List Control → Control → Prop) (past later : List Control)
    (c : Control) :
    Throughout P past (later ++ [c]) ↔ Throughout P past later ∧ P (past ++ later) c := by
  induction later generalizing past with
  | nil => simp [Throughout]
  | cons d later ih =>
    rw [List.cons_append, Throughout, Throughout, ih, and_assoc, List.append_assoc]
    rfl

lemma ticks_concat (cs : List Control) (c : Control) :
    ticks (cs ++ [c]) = ticks cs + if c.isTick then 1 else 0 := by
  rw [ticks, List.countP_append, List.countP_singleton]
  rfl

end Control

namespace VoxelPlayback

def StartsOver (p : VoxelPlayback) (g : VoxelGrid) (past : List Control) (c : Control) : Prop :=
  ∃ x, c = .advance x ∧ ((p.run g past).advance g x).2 = .fullPass

def StepsOver (p : VoxelPlayback) (g : VoxelGrid) (cell : Cell) (past : List Control)
    (c : Control) : Prop :=
  ∃ a b, c = .advance b ∧ Control.lastOffset? past = some a ∧ a < b ∧
    ((p.run g past).advance g b).2 = .incremental ∧
    ∃ e ∈ cell.events, a < e.offset ∧ e.offset ≤ b

/-- The last step over an event of a cell lies a number of ticks back, and no advance has started over
since. -/
def Glowing (p : VoxelPlayback) (g : VoxelGrid) (cell : Cell) (cs : List Control) (n : Nat) : Prop :=
  ∃ past c later, cs = past ++ c :: later ∧ StepsOver p g cell past c ∧
    Control.Throughout (fun past d => ¬ StartsOver p g past d ∧ ¬ StepsOver p g cell past d)
      (past ++ [c]) later ∧
    Control.ticks later = n

variable {p : VoxelPlayback} {g : VoxelGrid} {cell : Cell} {cs : List Control} {c : Control}
  {i n last x : Nat}

lemma tick_calm (past : List Control) :
    ¬ StartsOver p g past .tick ∧ ¬ StepsOver p g cell past .tick :=
  ⟨fun ⟨_, h, _⟩ => (nomatch h), fun ⟨_, _, h, _⟩ => (nomatch h)⟩

lemma not_glowing_nil : ¬ Glowing p g cell [] n := by
  rintro ⟨past, c, later, h, -⟩
  simp at h

lemma glowing_concat :
    Glowing p g cell (cs ++ [c]) n ↔
      StepsOver p g cell cs c ∧ n = 0 ∨
        ¬ StartsOver p g cs c ∧ ¬ StepsOver p g cell cs c ∧
          ∃ k, Glowing p g cell cs k ∧ n = k + if c.isTick then 1 else 0 := by
  constructor
  · rintro ⟨past, d, later, h, hstep, hcalm, rfl⟩
    rcases List.eq_nil_or_concat' later with rfl | ⟨early, e, rfl⟩
    · obtain ⟨rfl, hlast⟩ := List.append_inj' h rfl
      obtain rfl := List.singleton_inj.mp hlast
      exact Or.inl ⟨hstep, rfl⟩
    · rw [← List.cons_append, ← List.append_assoc] at h
      obtain ⟨rfl, hlast⟩ := List.append_inj' h rfl
      obtain rfl := List.singleton_inj.mp hlast
      rw [Control.throughout_concat, List.append_assoc, List.singleton_append] at hcalm
      obtain ⟨hearly, hstart, hlight⟩ := hcalm
      exact Or.inr ⟨hstart, hlight, _, ⟨past, d, early, rfl, hstep, hearly, rfl⟩,
        Control.ticks_concat ..⟩
  · rintro (⟨hstep, rfl⟩ | ⟨hstart, hlight, _, ⟨past, d, early, rfl, hstep, hearly, rfl⟩, rfl⟩)
    · exact ⟨cs, c, [], rfl, hstep, trivial, rfl⟩
    · refine ⟨past, d, early ++ [c], by simp, hstep, ?_, Control.ticks_concat ..⟩
      rw [Control.throughout_concat, List.append_assoc, List.singleton_append]
      exact ⟨hearly, hstart, hlight⟩

/-! What each control does to a counter. -/

lemma changed_iff (h : InOrder CellEvent.offset cell.events.toList) :
    changed cell last x ↔ ∃ e ∈ cell.events, last < e.offset ∧ e.offset ≤ x := by
  rw [changed, Cell.lastEvent?_eq h, Option.any_eq_true]
  constructor
  · rintro ⟨e, he, hlast⟩
    obtain ⟨hcell, hx⟩ := Log.mem_upTo.mp (List.mem_of_getLast? he)
    exact ⟨e, hcell, of_decide_eq_true hlast, hx⟩
  · rintro ⟨e, he, hlast, hx⟩
    have hupTo := Log.mem_upTo.mpr ⟨he, hx⟩
    have hne := List.ne_nil_of_mem hupTo
    have hordered : InOrder CellEvent.offset (Log.upTo x cell.events) := h.sublist List.filter_sublist
    refine ⟨_, List.getLast?_eq_some_getLast hne, decide_eq_true ?_⟩
    exact Nat.lt_of_lt_of_le hlast
      (hordered.rel_getLast_of_rel_getLast_getLast hupTo (Nat.le_refl _))

lemma advance_fullPass (h : (p.advance g x).2 = .fullPass) : (p.advance g x).1 = p.fullPass x := by
  rw [advance] at h ⊢
  cases hbase : p.cursor.base? p.scrubDistance x with
  | none => rfl
  | some last => rw [hbase] at h; cases h

lemma advance_incremental (h : (p.advance g x).2 = .incremental) :
    ∃ last, p.cursor.offset = some last ∧ (p.advance g x).1 = p.incremental g last x := by
  rw [advance] at h ⊢
  cases hbase : p.cursor.base? p.scrubDistance x with
  | none => rw [hbase] at h; cases h
  | some last => exact ⟨last, (Option.filter_eq_some_iff.mp hbase).1, rfl⟩

lemma getElem?_counters_fullPass (hn : p.counters[i]? = some n) :
    (p.fullPass x).counters[i]? = some p.highlightTicks := by
  rw [fullPass, Array.getElem?_map, hn]
  rfl

lemma getElem?_counters_incremental (hcell : g.cells[i]? = some cell)
    (hn : p.counters[i]? = some n) :
    (p.incremental g last x).counters[i]? =
      some (if last < x ∧ changed cell last x then 0 else n) := by
  rw [incremental]
  by_cases hx : last < x
  · rw [if_pos hx, Array.getElem?_mapIdx, hn, hcell]
    simp [hx]
  · rw [if_neg hx, if_neg fun h => hx h.1]
    exact hn

lemma getElem?_counters_tick (hn : p.counters[i]? = some n) :
    p.tick.1.counters[i]? = some (if n < p.highlightTicks then n + 1 else n) := by
  rw [tick]
  dsimp only
  rw [Array.getElem?_map, hn]
  rfl

lemma highlightTicks_handle (p : VoxelPlayback) (g : VoxelGrid) (c : Control) :
    (p.handle g c).1.highlightTicks = p.highlightTicks := by
  cases c with
  | advance x =>
    rw [handle, advance]
    cases p.cursor.base? p.scrubDistance x <;> rfl
  | tick => rfl
  | forceRedraw => rfl

lemma size_counters_handle (p : VoxelPlayback) (g : VoxelGrid) (c : Control) :
    (p.handle g c).1.counters.size = p.counters.size := by
  cases c with
  | advance x =>
    rw [handle, advance]
    cases p.cursor.base? p.scrubDistance x with
    | none => exact Array.size_map
    | some last =>
      dsimp only
      rw [incremental]
      split
      · exact Array.size_mapIdx
      · rfl
  | tick => exact Array.size_map
  | forceRedraw => rfl

/-! Runs. -/

lemma highlightTicks_run (p : VoxelPlayback) (g : VoxelGrid) (cs : List Control) :
    (p.run g cs).highlightTicks = p.highlightTicks :=
  p.run_induction g (P := fun q => q.highlightTicks = p.highlightTicks) rfl
    (fun q c h => (q.highlightTicks_handle g c).trans h) cs

lemma size_counters_run (p : VoxelPlayback) (g : VoxelGrid) (cs : List Control) :
    (p.run g cs).counters.size = p.counters.size :=
  p.run_induction g (P := fun q => q.counters.size = p.counters.size) rfl
    (fun q c h => (q.size_counters_handle g c).trans h) cs

lemma offset_run (h : p.cursor = {}) (g : VoxelGrid) (cs : List Control) :
    (p.run g cs).cursor.offset = Control.lastOffset? cs := by
  rw [cursor_run g h, Cursor.offset_after]

lemma counter_of_startsOver (h : StartsOver p g cs c) (hn : (p.run g cs).counters[i]? = some n) :
    (p.run g (cs ++ [c])).counters[i]? = some p.highlightTicks := by
  obtain ⟨x, rfl, hkind⟩ := h
  rw [run_concat, handle]
  dsimp only
  rw [advance_fullPass hkind, getElem?_counters_fullPass hn, highlightTicks_run]

section Cell

variable (hp : p.cursor = {}) (hcell : g.cells[i]? = some cell)
  (hlog : InOrder CellEvent.offset cell.events.toList)

include hp hcell hlog

lemma counter_of_stepsOver (h : StepsOver p g cell cs c)
    (hn : (p.run g cs).counters[i]? = some n) :
    (p.run g (cs ++ [c])).counters[i]? = some 0 := by
  obtain ⟨a, b, rfl, ha, hab, hkind, hevent⟩ := h
  obtain ⟨last, hlast, hstep⟩ := advance_incremental hkind
  rw [offset_run hp, ha] at hlast
  obtain rfl := Option.some.inj hlast
  rw [run_concat, handle]
  dsimp only
  rw [hstep, getElem?_counters_incremental hcell hn, if_pos ⟨hab, (changed_iff hlog).mpr hevent⟩]

lemma counter_of_calm (hstart : ¬ StartsOver p g cs c) (hover : ¬ StepsOver p g cell cs c)
    (hn : (p.run g cs).counters[i]? = some n) :
    (p.run g (cs ++ [c])).counters[i]? =
      some (if c.isTick ∧ n < p.highlightTicks then n + 1 else n) := by
  rw [run_concat]
  cases c with
  | advance x =>
    have hkind : ((p.run g cs).advance g x).2 = .incremental := by
      cases hk : ((p.run g cs).advance g x).2 with
      | incremental => rfl
      | fullPass => exact absurd ⟨x, rfl, hk⟩ hstart
    obtain ⟨last, hlast, hstep⟩ := advance_incremental hkind
    rw [offset_run hp] at hlast
    have hquiet : ¬ (last < x ∧ changed cell last x) := fun h =>
      hover ⟨last, x, rfl, hlast, h.1, hkind, (changed_iff hlog).mp h.2⟩
    rw [handle]
    dsimp only
    rw [hstep, getElem?_counters_incremental hcell hn, if_neg hquiet]
    simp [Control.isTick]
  | tick =>
    rw [handle]
    dsimp only
    rw [getElem?_counters_tick hn, highlightTicks_run]
    simp [Control.isTick]
  | forceRedraw =>
    change (p.run g cs).counters[i]? = _
    simpa [Control.isTick] using hn

lemma counter_run (hn : p.counters[i]? = some p.highlightTicks) (cs : List Control) :
    ∃ n, (p.run g cs).counters[i]? = some n ∧
      (∀ k, Glowing p g cell cs k → n = min p.highlightTicks k) ∧
      ((∀ k, ¬ Glowing p g cell cs k) → n = p.highlightTicks) := by
  induction cs using List.reverseRecOn with
  | nil => exact ⟨_, hn, fun k hk => absurd hk not_glowing_nil, fun _ => rfl⟩
  | append_singleton cs c ih =>
    obtain ⟨n, hn, hglow, hdark⟩ := ih
    -- a step over an event starts the counter again, a full pass ends it, all else lets it run
    by_cases hover : StepsOver p g cell cs c
    · refine ⟨0, counter_of_stepsOver hp hcell hlog hover hn, fun k hk => ?_, fun hk => ?_⟩
      · rcases glowing_concat.mp hk with ⟨_, rfl⟩ | ⟨_, hnot, _⟩
        · exact (Nat.min_zero _).symm
        · exact absurd hover hnot
      · exact absurd (glowing_concat.mpr (Or.inl ⟨hover, rfl⟩)) (hk 0)
    · by_cases hstart : StartsOver p g cs c
      · refine ⟨_, counter_of_startsOver hstart hn, fun k hk => ?_, fun _ => rfl⟩
        rcases glowing_concat.mp hk with ⟨hstep, _⟩ | ⟨hnot, _⟩
        · exact absurd hstep hover
        · exact absurd hstart hnot
      · refine ⟨_, counter_of_calm hp hcell hlog hstart hover hn, fun k hk => ?_, fun hk => ?_⟩
        · rcases glowing_concat.mp hk with ⟨hstep, _⟩ | ⟨_, _, k, hold, rfl⟩
          · exact absurd hstep hover
          · rw [hglow k hold]
            cases c.isTick <;> grind
        · have hfull := hdark fun k hold =>
            hk _ (glowing_concat.mpr (Or.inr ⟨hstart, hover, k, hold, rfl⟩))
          rw [hfull, if_neg fun h => Nat.lt_irrefl _ h.2]

end Cell

lemma counters_ofGrid (settings : Settings) (hcell : g.cells[i]? = some cell) :
    (ofGrid g settings).counters[i]? = some (ofGrid g settings).highlightTicks := by
  obtain ⟨hi, _⟩ := Array.getElem?_eq_some_iff.mp hcell
  exact Array.getElem?_replicate.trans (if_pos hi)

lemma phase_present_iff (hcell : g.cells[i]? = some cell) (hx : p.cursor.offset = some x) :
    (p.phase g i = .adding ∨ p.phase g i = .present) ↔ cell.state x = .present := by
  rw [phase, hcell, hx, Cell.state]
  dsimp only
  cases cell.lastEvent? x with
  | none => simp
  | some e => grind

theorem run_counters (settings : Settings) {g : VoxelGrid}
    (h : ∀ cell ∈ g.cells, InOrder CellEvent.offset cell.events.toList) (cs : List Control) :
    let total := settings.voxel.highlightTicks
    let start := ofGrid g settings
    let p := start.run g cs
    p.counters.size = g.size ∧
      (∀ (i : Nat) cell, g.cells[i]? = some cell →
        (∀ n, Glowing start g cell cs n → p.counters[i]? = some (min total n)) ∧
        ((∀ n, ¬ Glowing start g cell cs n) → p.counters[i]? = some total)) ∧
      p.tick.2 = p.tick.1.counters.countP (· < total) ∧
      ∀ x, Control.lastOffset? cs = some x → ∀ (i : Nat) cell, g.cells[i]? = some cell →
        ((p.phase g i = .adding ∨ p.phase g i = .present) ↔ cell.state x = .present) := by
  intro total start p
  have htotal : p.highlightTicks = total := highlightTicks_run start g cs
  refine ⟨?_, fun i cell hcell => ?_, ?_, fun x hx i cell hcell => ?_⟩
  · exact (size_counters_run start g cs).trans Array.size_replicate
  · have hlog := h cell (Array.mem_of_getElem? hcell)
    obtain ⟨n, hn, hglow, hdark⟩ := counter_run rfl hcell hlog (counters_ofGrid settings hcell) cs
    exact ⟨fun k hk => hn.trans (congrArg some (hglow k hk)),
      fun hk => hn.trans (congrArg some (hdark hk))⟩
  · rw [← htotal]
    rfl
  · exact phase_present_iff hcell ((offset_run rfl g cs).trans hx)

theorem run_counters_back_and_forth :
    let cell : Cell := ⟨⟨0, 0, 0⟩, .black, #[⟨10, true⟩, ⟨20, false⟩]⟩
    let g : VoxelGrid := { cellSize := ⟨1.0, 1.0⟩, cells := #[cell] }
    let cs : List Control := [.advance 0, .advance 25, .tick, .advance 15, .tick]
    let start := ofGrid g {}
    (∀ cell ∈ g.cells, InOrder CellEvent.offset cell.events.toList) ∧ Glowing start g cell cs 2 ∧
      (start.run g cs).counters[0]? = some 2 ∧
      ((start.run g cs).phase g 0 = .adding ∨ (start.run g cs).phase g 0 = .present) := by
  intro cell g cs start
  have hlogs : ∀ cell ∈ g.cells, InOrder CellEvent.offset cell.events.toList := by
    intro cell hcell
    rw [Array.mem_singleton.mp hcell]
    decide
  have hstep : StepsOver start g cell [.advance 0] (.advance 25) :=
    ⟨0, 25, rfl, rfl, by decide, (advance_snd_run g rfl _ _).trans rfl, ⟨10, true⟩, by simp [cell],
      by decide, by decide⟩
  have hback : ¬ StartsOver start g [.advance 0, .advance 25, .tick] (.advance 15) ∧
      ¬ StepsOver start g cell [.advance 0, .advance 25, .tick] (.advance 15) := by
    constructor
    · rintro ⟨x, hx, hkind⟩
      obtain rfl := Control.advance.inj hx
      rw [advance_snd_run g rfl] at hkind
      cases hkind
    · rintro ⟨a, b, hb, ha, hab, _⟩
      obtain rfl := Control.advance.inj hb
      obtain rfl : 25 = a := Option.some.inj ha
      exact absurd hab (by decide)
  have hglow : Glowing start g cell cs 2 :=
    ⟨[.advance 0], .advance 25, [.tick, .advance 15, .tick], rfl, hstep,
      ⟨tick_calm _, hback, tick_calm _, trivial⟩, rfl⟩
  have hpresent : cell.state 15 = .present := by
    rw [Cell.state_eq (hlogs cell (Array.mem_singleton_self cell))]
    rfl
  obtain ⟨_, hcounters, _, hphases⟩ := run_counters {} hlogs cs
  exact ⟨hlogs, hglow, (hcounters 0 cell rfl).1 2 hglow, (hphases 15 rfl 0 cell rfl).mpr hpresent⟩

end VoxelPlayback
end Toolpath
