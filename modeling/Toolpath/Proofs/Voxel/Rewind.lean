import Toolpath.Proofs.Voxel.Counters
import Toolpath.Proofs.Voxel.Cut

/-! Steps back. They start no counter, but which of the two highlights a running counter gives depends
on the state of its cell at the cursor, and that may change. -/

namespace Toolpath
namespace CellPhase

def isHighlight : CellPhase → Bool
  | adding | removing => true
  | absent | present => false

end CellPhase

def CellState.highlight : CellState → CellPhase
  | present => .adding
  | absent => .removing

lemma CellState.highlight_inj {s t : CellState} : s.highlight = t.highlight ↔ s = t := by
  cases s <;> cases t <;> decide

lemma Cell.lastEvent?_isSome_mono {cell : Cell} (h : InOrder CellEvent.offset cell.events.toList)
    {o o' : Nat} (ho : o ≤ o') (hsome : (cell.lastEvent? o).isSome) :
    (cell.lastEvent? o').isSome := by
  rw [Cell.lastEvent?_eq h, List.getLast?_isSome] at hsome ⊢
  obtain ⟨e, he⟩ := List.exists_mem_of_ne_nil _ hsome
  obtain ⟨hcell, hle⟩ := Log.mem_upTo.mp he
  exact List.ne_nil_of_mem (Log.mem_upTo.mpr ⟨hcell, Nat.le_trans hle ho⟩)

namespace VoxelPlayback

variable {p : VoxelPlayback} {g : VoxelGrid} {cell : Cell} {i x last : Nat}

def fresh (p : VoxelPlayback) (i : Nat) : Bool := p.counters[i]?.any (· < p.highlightTicks)

section Phase

variable (hcell : g.cells[i]? = some cell) (hx : p.cursor.offset = some x)

include hcell hx

lemma phase_of_event {o : Nat} {adds : Bool} (he : cell.lastEvent? x = some ⟨o, adds⟩) :
    p.phase g i =
      if adds then if p.fresh i then .adding else .present
      else if p.fresh i then .removing else .absent := by
  rw [phase, hcell, hx]
  dsimp only
  rw [he]
  rfl

lemma isHighlight_phase_iff :
    (p.phase g i).isHighlight ↔ p.fresh i ∧ (cell.lastEvent? x).isSome := by
  cases he : cell.lastEvent? x with
  | none =>
    rw [phase, hcell, hx]
    dsimp only
    rw [he]
    simp [CellPhase.isHighlight]
  | some e =>
    obtain ⟨o, adds⟩ := e
    rw [phase_of_event hcell hx he]
    cases adds <;> cases p.fresh i <;> simp [CellPhase.isHighlight]

lemma phase_of_isHighlight (h : (p.phase g i).isHighlight) :
    p.phase g i = (cell.state x).highlight := by
  obtain ⟨hfresh, hsome⟩ := (isHighlight_phase_iff hcell hx).mp h
  obtain ⟨⟨o, adds⟩, he⟩ := Option.isSome_iff_exists.mp hsome
  rw [phase_of_event hcell hx he, Cell.state, he, if_pos hfresh, if_pos hfresh]
  cases adds <;> rfl

end Phase

lemma not_fresh_fullPass (p : VoxelPlayback) (x i : Nat) : ¬ (p.fullPass x).fresh i := by
  rw [fresh, fullPass, Array.getElem?_map, Option.any_map]
  simp

lemma fresh_incremental_back (p : VoxelPlayback) (g : VoxelGrid) (hx : x ≤ last) (i : Nat) :
    (p.incremental g last x).fresh i = p.fresh i := by
  rw [fresh, incremental, if_neg (Nat.not_lt.mpr hx), fresh]

lemma phases_of_turn {cs : List Control} {b n : Nat} (hp : p.cursor = {})
    (hcell : g.cells[i]? = some cell) (hlog : InOrder CellEvent.offset cell.events.toList)
    (hover : StepsOver p g cell cs (.advance b)) (hn : (p.run g cs).counters[i]? = some n)
    (hpos : 0 < p.highlightTicks) (hx : x ≤ b) (hsome : (cell.lastEvent? x).isSome)
    (hkind : ((p.run g (cs ++ [.advance b])).advance g x).2 = .incremental) :
    (p.run g (cs ++ [.advance b])).phase g i = (cell.state b).highlight ∧
      ((p.run g (cs ++ [.advance b])).advance g x).1.phase g i = (cell.state x).highlight := by
  -- the step forward starts the counter, the step back leaves it alone
  have hfresh : (p.run g (cs ++ [.advance b])).fresh i := by
    rw [fresh, counter_of_stepsOver hp hcell hlog hover hn, highlightTicks_run]
    exact decide_eq_true hpos
  have hcursor : (p.run g (cs ++ [.advance b])).cursor.offset = some b := by
    rw [offset_run hp, Control.lastOffset?_concat]
    rfl
  obtain ⟨last, hlast, hstep⟩ := advance_incremental hkind
  obtain rfl := Option.some.inj (hcursor.symm.trans hlast)
  constructor
  · refine phase_of_isHighlight hcell hcursor ((isHighlight_phase_iff hcell hcursor).mpr ?_)
    exact ⟨hfresh, cell.lastEvent?_isSome_mono hlog hx hsome⟩
  · rw [hstep]
    refine phase_of_isHighlight hcell rfl ((isHighlight_phase_iff hcell rfl).mpr ⟨?_, hsome⟩)
    rwa [fresh_incremental_back _ g hx]

lemma highlights_back (hcell : g.cells[i]? = some cell)
    (hlog : InOrder CellEvent.offset cell.events.toList) (hlast : p.cursor.offset = some last)
    (hx : x ≤ last) (h : ((p.advance g x).1.phase g i).isHighlight) :
    (p.phase g i).isHighlight ∧
      ((p.advance g x).1.phase g i = p.phase g i ↔ cell.state x = cell.state last) := by
  have hcursor : (p.advance g x).1.cursor.offset = some x := by rw [cursor_advance]; rfl
  obtain ⟨hfresh, hsome⟩ := (isHighlight_phase_iff hcell hcursor).mp h
  -- a full pass would have ended all counters
  have hbefore : (p.phase g i).isHighlight := by
    refine (isHighlight_phase_iff hcell hlast).mpr ⟨?_, cell.lastEvent?_isSome_mono hlog hx hsome⟩
    cases hkind : (p.advance g x).2 with
    | fullPass =>
      rw [advance_fullPass hkind] at hfresh
      exact absurd hfresh (p.not_fresh_fullPass x i)
    | incremental =>
      obtain ⟨base, hbase, hstep⟩ := advance_incremental hkind
      obtain rfl := Option.some.inj (hlast.symm.trans hbase)
      rwa [hstep, fresh_incremental_back p g hx] at hfresh
  refine ⟨hbefore, ?_⟩
  rw [phase_of_isHighlight hcell hcursor h, phase_of_isHighlight hcell hlast hbefore,
    CellState.highlight_inj]

theorem run_back (settings : Settings) (tools : ToolTable) {v : Settings.Voxels} {store : Store}
    (h : Streamed store.segments.toList) (hw : 0.0 < v.cellWidth) (hh : 0.0 < v.cellHeight)
    (cs : List Control) {last x : Nat} (hlast : Control.lastOffset? cs = some last)
    (hx : x ≤ last) :
    ∃ g, (VoxelGrid.build store tools v).1 = .ok g ∧
      let p := (ofGrid g settings).run g cs
      let q := (p.advance g x).1
      ∀ (i : Nat) cell, g.cells[i]? = some cell → (q.phase g i).isHighlight →
        (p.phase g i).isHighlight ∧
          (q.phase g i = p.phase g i ↔ cell.state x = cell.state last) := by
  refine ⟨_, VoxelGrid.build_eq hw hh store tools, ?_⟩
  have hsurvey := (VoxelGrid.surveyed_grown ⟨v.cellWidth, v.cellHeight⟩ tools
    h.ordered).keepTranslations
  intro p q i cell hcell hafter
  have hlog := (hsurvey.tidy cell (Array.mem_of_getElem? hcell)).ordered
  exact highlights_back hcell hlog ((offset_run rfl _ cs).trans hlast) hx hafter

theorem run_back_dots :
    let store : Store := .ofSegments [.dot 4, .dot 9]
    let cs : List Control := [.advance 0, .advance 9, .tick]
    Streamed store.segments.toList ∧ Control.lastOffset? cs = some 9 ∧
      ∃ g, (VoxelGrid.build store .standard {}).1 = .ok g ∧
        let p := (ofGrid g {}).run g cs
        let q := (p.advance g 4).1
        ∀ (i : Nat) cell, g.cells[i]? = some cell → (q.phase g i).isHighlight →
          (p.phase g i).isHighlight ∧
            (q.phase g i = p.phase g i ↔ cell.state 4 = cell.state 9) := by
  intro store cs
  have h : Streamed store.segments.toList := by decide
  exact ⟨h, rfl, run_back {} .standard (v := {}) h (by decide) (by decide) cs rfl (by decide)⟩

theorem run_back_recolors :
    let mill : Tool := ⟨"Mill", .black, 0.4, .subtractive⟩
    let tools : ToolTable := .ofList [.standard, mill] 0.1
    let store : Store := .ofSegments [.dot 10, { Segment.dot 20 with tool := 1 }]
    let cs : List Control := [.advance 0, .advance 10, .tick, .tick, .tick, .tick, .tick]
    Streamed store.segments.toList ∧
      ∃ g, (VoxelGrid.build store tools {}).1 = .ok g ∧
        let p := (ofGrid g {}).run g (cs ++ [.advance 20])
        p.cursor.offset = some 20 ∧ ∃ i, ((ofGrid g {}).run g cs).phase g i = .present ∧
          p.phase g i = .removing ∧ (p.advance g 15).1.phase g i = .adding := by
  intro mill tools store cs
  have h : Streamed store.segments.toList := by decide
  let size : CellSize := ⟨1.0, 1.0⟩
  let first : VoxelGrid := VoxelGrid.grown size tools [.dot 10]
  let s : Segment := { Segment.dot 20 with tool := 1 }
  have hfilled : (⟨0, 0, 0⟩ : CellKey) ∈ VoxelGrid.reach tools { cellSize := size } (.dot 10) := by
    decide +kernel
  have hcleared : (⟨0, 0, 0⟩ : CellKey) ∈ first.reach tools s := by
    have hbed : 0 ≤ first.maxLayer := VoxelGrid.maxLayer_grown_append size tools [] [.dot 10]
    have hsize : first.cellSize = size := VoxelGrid.cellSize_grown size tools [.dot 10]
    have horigin : ∃ p ∈ VoxelGrid.samples size s 0.0, size.keyOf p = ⟨0, 0, 0⟩ := by
      decide +kernel
    have hreach : 0 ≤ VoxelGrid.cutReach size (tools.get s.tool).radius := by decide +kernel
    obtain ⟨p, hp, hkey⟩ := horigin
    rw [← hkey]
    rw [← hsize] at hkey hp hreach ⊢
    exact VoxelGrid.own_mem_reach_cut rfl (by decide) hreach hp
      (by rw [hkey]; exact Int.le_add_one hbed)
  obtain ⟨g, hg, i, cell, hcell, hevents⟩ : ∃ g, (VoxelGrid.build store tools {}).1 = .ok g ∧
      ∃ (i : Nat) (cell : Cell), g.cells[i]? = some cell ∧
        cell.events = #[⟨10, true⟩, ⟨20, false⟩] :=
    VoxelGrid.exists_cell_build_pair (v := {}) (by decide) (by decide) hfilled hcleared (by decide)
  have hlog : InOrder CellEvent.offset cell.events.toList := by
    rw [hevents]
    decide
  have hfill : StepsOver (ofGrid g {}) g cell [.advance 0] (.advance 10) :=
    ⟨0, 10, rfl, rfl, by decide, (advance_snd_run g rfl _ _).trans rfl, ⟨10, true⟩,
      by simp [hevents], by decide, by decide⟩
  have hclear : StepsOver (ofGrid g {}) g cell cs (.advance 20) :=
    ⟨10, 20, rfl, rfl, by decide, (advance_snd_run g rfl _ _).trans rfl, ⟨20, false⟩,
      by simp [hevents], by decide, by decide⟩
  have hglow : Glowing (ofGrid g {}) g cell cs 5 :=
    ⟨[.advance 0], .advance 10, [.tick, .tick, .tick, .tick, .tick], rfl, hfill,
      ⟨tick_calm _, tick_calm _, tick_calm _, tick_calm _, tick_calm _, trivial⟩, rfl⟩
  obtain ⟨n, hn, hfaded, _⟩ := counter_run rfl hcell hlog (counters_ofGrid {} hcell) cs
  obtain rfl : n = 5 := hfaded 5 hglow
  have hsome : (cell.lastEvent? 15).isSome := by
    rw [Cell.lastEvent?_eq hlog, hevents]
    rfl
  have hstates : cell.state 10 = .present ∧ cell.state 15 = .present := by
    rw [Cell.state_eq hlog, Cell.state_eq hlog, hevents]
    exact ⟨rfl, rfl⟩
  have habsent : cell.state 20 = .absent := by
    rw [Cell.state_eq hlog, hevents]
    rfl
  have hdone : ((ofGrid g {}).run g cs).phase g i = .present := by
    have hcursor : ((ofGrid g {}).run g cs).cursor.offset = some 10 := offset_run rfl g cs
    refine ((phase_present_iff hcell hcursor).mpr hstates.1).resolve_left fun hadding => ?_
    obtain ⟨hfresh, _⟩ := (isHighlight_phase_iff hcell hcursor).mp (by rw [hadding]; rfl)
    rw [fresh, hn, highlightTicks_run] at hfresh
    cases hfresh
  obtain ⟨hbefore, hafter⟩ := phases_of_turn (x := 15) rfl hcell hlog hclear hn (Nat.succ_pos 4)
    (by decide) hsome ((advance_snd_run g rfl _ _).trans rfl)
  rw [habsent] at hbefore
  rw [hstates.2] at hafter
  exact ⟨h, g, hg, offset_run rfl g _, i, hdone, hbefore, hafter⟩

end VoxelPlayback
end Toolpath
