import Toolpath.Proofs.Voxel.Overflow

/-! What a cut does to a grid. In each column that it cuts it clears every cell from the height of the
cut on, without end; all other logs stay as they are, and so does the past of all cells. -/

namespace Toolpath
namespace Log

lemma back?_record (log : Array CellEvent) (e : CellEvent) : (record log e).back? = some e := by
  rw [record]
  split
  · next hlast => exact hlast
  · exact Array.back?_push

lemma final_record (log : Array CellEvent) (e : CellEvent) :
    final (record log e).toList = if e.adds then .present else .absent := by
  rw [final, Array.getLast?_toList, back?_record, Option.any_some]

end Log

namespace VoxelGrid

variable {g : VoxelGrid} {size : CellSize} {tools : ToolTable} {s : Segment} {p : Point}
  {k : CellKey}

lemma Heaped.events_above (hg : Heaped g) (hi : Indexed g) (hk : g.maxLayer + 1 < k.z) :
    g.events k = #[] := by
  by_contra hne
  obtain ⟨c, hc, rfl, _⟩ := hi.exists_of_events_ne hne
  exact absurd (hg.le_top c hc) (Int.not_le.mpr hk)

lemma Recorded.state_apply (h : Recorded g s.offset) (tools : ToolTable) (k : CellKey) {o : Nat}
    (ho : o < s.offset) : (VoxelGrid.apply tools g s).state k o = g.state k o := by
  obtain ⟨_, hagree⟩ := AgreeUpTo.apply tools ho h.indexed fun k => rfl
  rw [(h.apply tools).state_eq, h.state_eq, hagree k]

lemma events_grown_singleton (hk : k ∈ reach tools { cellSize := size } s) :
    (grown size tools [s]).events k = #[⟨s.offset, (tools.get s.tool).isAdditive⟩] := by
  have hnone : events { cellSize := size } k = #[] := by simp [events, cell?]
  have hlog := (indexed_empty size).events_apply tools s k
  rw [if_pos hk, hnone] at hlog
  exact hlog

lemma events_grown_pair {t : Segment} (hs : k ∈ reach tools { cellSize := size } s)
    (ht : k ∈ (grown size tools [s]).reach tools t)
    (hne : (tools.get s.tool).isAdditive ≠ (tools.get t.tool).isAdditive) :
    (grown size tools ([s] ++ [t])).events k =
      #[⟨s.offset, (tools.get s.tool).isAdditive⟩, ⟨t.offset, (tools.get t.tool).isAdditive⟩] := by
  rw [grown_concat, (indexed_grown size tools [s]).events_apply, if_pos ht,
    events_grown_singleton hs, Log.record, if_neg]
  · rfl
  · intro hlast
    exact hne (congrArg CellEvent.adds (Option.some.inj hlast))

lemma exists_cell_build_pair {v : Settings.Voxels} {t : Segment} (hw : 0.0 < v.cellWidth)
    (hh : 0.0 < v.cellHeight) (hs : k ∈ reach tools { cellSize := ⟨v.cellWidth, v.cellHeight⟩ } s)
    (ht : k ∈ (grown ⟨v.cellWidth, v.cellHeight⟩ tools [s]).reach tools t)
    (hne : (tools.get s.tool).isAdditive ≠ (tools.get t.tool).isAdditive) :
    ∃ g, (build (.ofSegments ([s] ++ [t])) tools v).1 = .ok g ∧
      ∃ (i : Nat) (c : Cell), g.cells[i]? = some c ∧
        c.events =
          #[⟨s.offset, (tools.get s.tool).isAdditive⟩, ⟨t.offset, (tools.get t.tool).isAdditive⟩] := by
  have hlog := events_grown_pair hs ht hne
  obtain ⟨c, hmem, _, hevents⟩ :=
    (indexed_grown ⟨v.cellWidth, v.cellHeight⟩ tools ([s] ++ [t])).exists_of_events_ne
      (k := k) (by rw [hlog]; nofun)
  obtain ⟨i, hc⟩ := Array.mem_iff_getElem?.mp hmem
  refine ⟨_, build_eq hw hh _ tools, i, c, ?_, hevents.trans hlog⟩
  rw [Store.toList_segments_ofSegments, cells_keepTranslations]
  exact hc

section Cut

variable (hd : s.depositing) (hcut : ¬ (tools.get s.tool).isAdditive)

include hd hcut

lemma mem_reach_cut_iff :
    k ∈ g.reach tools s ↔
      k.z ≤ g.maxLayer + 1 ∧ ∃ p ∈ samples g.cellSize s 0.0,
        CutsColumn g.cellSize (tools.get s.tool).radius p k.x k.y ∧ (g.cellSize.keyOf p).z ≤ k.z := by
  rw [reach, if_neg (by simp [Segment.isTravel, hd]), if_neg hcut, mem_swath_iff]

lemma own_mem_reach_cut (hreach : 0 ≤ cutReach g.cellSize (tools.get s.tool).radius)
    (hp : p ∈ samples g.cellSize s 0.0) (hz : (g.cellSize.keyOf p).z ≤ g.maxLayer + 1) :
    g.cellSize.keyOf p ∈ g.reach tools s :=
  (mem_reach_cut_iff hd hcut).mpr ⟨hz, p, hp, cutsColumn_own hreach p, Int.le_refl _⟩

lemma final_apply_cut (hi : Indexed g) (hg : Heaped g) (hp : p ∈ samples g.cellSize s 0.0)
    (hcolumn : CutsColumn g.cellSize (tools.get s.tool).radius p k.x k.y)
    (hz : (g.cellSize.keyOf p).z ≤ k.z) :
    Log.final ((apply tools g s).events k).toList = .absent := by
  rw [hi.events_apply]
  by_cases htop : k.z ≤ g.maxLayer + 1
  · rw [if_pos ((mem_reach_cut_iff hd hcut).mpr ⟨htop, p, hp, hcolumn, hz⟩), Log.final_record,
      if_neg hcut]
  · -- the cut goes no higher, but neither has anything else
    have hout : k ∉ g.reach tools s := fun hk => htop ((mem_reach_cut_iff hd hcut).mp hk).1
    rw [if_neg hout, hg.events_above hi (Int.not_le.mp htop)]
    rfl

lemma events_apply_cut (hi : Indexed g)
    (hspared : ∀ p ∈ samples g.cellSize s 0.0,
      CutsColumn g.cellSize (tools.get s.tool).radius p k.x k.y → k.z < (g.cellSize.keyOf p).z) :
    (apply tools g s).events k = g.events k := by
  rw [hi.events_apply, if_neg]
  intro hk
  obtain ⟨_, p, hp, hcolumn, hz⟩ := (mem_reach_cut_iff hd hcut).mp hk
  exact Int.not_le.mpr (hspared p hp hcolumn) hz

end Cut

theorem build_cut (tools : ToolTable) {v : Settings.Voxels} {segments : List Segment} {s : Segment}
    (h : Streamed (segments ++ [s])) (hw : 0.0 < v.cellWidth) (hh : 0.0 < v.cellHeight)
    (hd : s.depositing) (hcut : ¬ (tools.get s.tool).isAdditive)
    (hfits : Fits ⟨v.cellWidth, v.cellHeight⟩ tools (segments ++ [s])) :
    let size : CellSize := ⟨v.cellWidth, v.cellHeight⟩
    let radius := (tools.get s.tool).radius
    ∃ before after,
      (build? (.ofSegments segments) tools v).map (·.1) = some (.ok before) ∧
      (build? (.ofSegments (segments ++ [s])) tools v).map (·.1) = some (.ok after) ∧
      (∀ p ∈ samples size s 0.0, ∀ x y, CutsColumn size radius p x y →
        ∀ z, (size.keyOf p).z ≤ z → ∀ o, s.offset ≤ o → after.state ⟨x, y, z⟩ o = .absent) ∧
      (∀ k : CellKey,
        (∀ p ∈ samples size s 0.0, CutsColumn size radius p k.x k.y → k.z < (size.keyOf p).z) →
          after.events k = before.events k) ∧
      (∀ k o, o < s.offset → after.state k o = before.state k o) ∧
      (0 ≤ cutReach size radius →
        ∀ p, CutsColumn size radius p (size.keyOf p).x (size.keyOf p).y) ∧
      (cutReach size radius < 0 →
        radius < 0.0 ∧ (∀ p x y, ¬ CutsColumn size radius p x y) ∧
          ∀ k, after.events k = before.events k) := by
  intro size radius
  obtain ⟨hbefore, _, hlast⟩ := List.pairwise_append.mp h.ordered
  have htop : ∀ t ∈ segments, t.offset ≤ s.offset :=
    fun t ht => hlast t ht s (List.mem_singleton_self s)
  have hsurvey := surveyed_grown size tools hbefore
  have hrecorded := recorded_grown size tools hbefore htop
  have hsize : (grown size tools segments).cellSize = size := cellSize_grown size tools segments
  have hspared (k : CellKey)
      (hk : ∀ p ∈ samples size s 0.0, CutsColumn size radius p k.x k.y → k.z < (size.keyOf p).z) :
      (apply tools (grown size tools segments) s).events k = (grown size tools segments).events k :=
    events_apply_cut hd hcut hsurvey.indexed (by rwa [hsize])
  refine ⟨_, _, build?_eq hw hh (fits_concat_iff.mp hfits).1, build?_eq hw hh hfits, ?_⟩
  rw [grown_concat]
  refine ⟨fun p hp x y hcolumn z hz o ho => ?_, hspared,
    fun k o ho => hrecorded.state_apply tools k ho, fun hreach p => cutsColumn_own hreach p,
    fun hreach => ⟨?_, not_cutsColumn hreach, fun k => ?_⟩⟩
  · have hfinal : Log.final ((apply tools (grown size tools segments) s).events ⟨x, y, z⟩).toList =
        .absent := by
      rw [← hsize] at hp hcolumn hz
      exact final_apply_cut hd hcut hsurvey.indexed hsurvey.heaped hp hcolumn hz
    exact ((hrecorded.apply tools).state_past _ ho).trans hfinal
  · by_contra hradius
    exact Int.not_le.mpr hreach (cutReach_nonneg hw hradius)
  · exact hspared k fun p _ hcolumn => absurd hcolumn (not_cutsColumn hreach p k.x k.y)

theorem build_cut_mill :
    let mill : Tool := ⟨"Mill", .black, 0.4, .subtractive⟩
    let tools : ToolTable := .ofList [.standard, mill] 0.1
    let s : Segment := { Segment.dot 9 with tool := 1 }
    Streamed ([.dot 4] ++ [s]) ∧ s.depositing ∧ ¬ (tools.get s.tool).isAdditive ∧
      Fits ⟨1.0, 1.0⟩ tools ([.dot 4] ++ [s]) ∧ ∃ before after,
        (build? (.ofSegments [.dot 4]) tools {}).map (·.1) = some (.ok before) ∧
        (build? (.ofSegments ([.dot 4] ++ [s])) tools {}).map (·.1) = some (.ok after) ∧
        (∀ z, 0 ≤ z → after.state ⟨0, 0, z⟩ 9 = .absent) ∧
        (∀ y z, after.events ⟨2, y, z⟩ = before.events ⟨2, y, z⟩) ∧
        ∀ k, after.state k 8 = before.state k 8 := by
  intro mill tools s
  let size : CellSize := ⟨1.0, 1.0⟩
  have h : Streamed ([.dot 4] ++ [s]) := by decide
  have hcut : ¬ (tools.get s.tool).isAdditive := by decide
  have hreach : cutReach size (tools.get s.tool).radius = 1 := by decide +kernel
  have horigin : ∃ p ∈ samples size s 0.0, size.keyOf p = ⟨0, 0, 0⟩ := by decide +kernel
  have hsamples : ∀ p ∈ samples size s 0.0, (size.keyOf p).x = 0 := by decide +kernel
  have hfits : Fits size tools ([.dot 4] ++ [s]) := fits_pair_iff.mpr (by decide +kernel)
  obtain ⟨before, after, hbefore, hafter, hcleared, hspared, hpast, hown, _⟩ :=
    build_cut tools (v := {}) h (by decide) (by decide) rfl hcut hfits
  refine ⟨h, rfl, hcut, hfits, before, after, hbefore, hafter, fun z hz => ?_, fun y z => ?_,
    fun k => hpast k 8 (by decide)⟩
  · obtain ⟨p, hp, hkey⟩ := horigin
    have hcolumn := hown (by rw [hreach]; decide) p
    rw [hkey] at hcolumn
    exact hcleared p hp 0 0 hcolumn z (by rwa [hkey]) 9 (Nat.le_refl 9)
  · refine hspared _ fun p hp hcolumn => ?_
    have hnear : 2 - (size.keyOf p).x ≤ cutReach size (tools.get s.tool).radius := hcolumn.near_x.2
    rw [hsamples p hp, hreach] at hnear
    exact absurd hnear (by decide)

theorem build_cut_inside_out :
    let size : CellSize := ⟨1.0, 1.0⟩
    let mill : Tool := ⟨"Mill", .black, -4.0, .subtractive⟩
    let tools : ToolTable := .ofList [.standard, mill] 0.1
    let s : Segment := { Segment.dot 9 with tool := 1 }
    let high : Segment := { Segment.dot 4 with start := ⟨0.0, 0.0, 3e9⟩, stop := ⟨0.0, 0.0, 3e9⟩ }
    build? (.ofSegments [high, s]) tools {} = none ∧
      Streamed ([.dot 4] ++ [s]) ∧ s.depositing ∧ ¬ (tools.get s.tool).isAdditive ∧
      ∃ g, (build? (.ofSegments ([.dot 4] ++ [s])) tools {}).map (·.1) = some (.ok g) ∧
        ∃ p ∈ samples size s 0.0, g.state (size.keyOf p) s.offset = .present := by
  intro size mill tools s high
  have h : Streamed ([.dot 4] ++ [s]) := by decide
  have hcut : ¬ (tools.get s.tool).isAdditive := by decide
  have hreach : cutReach size (tools.get s.tool).radius < 0 := by decide +kernel
  have horigin : ∃ p ∈ samples size s 0.0, size.keyOf p = ⟨0, 0, 0⟩ := by decide +kernel
  have hfilled : (⟨0, 0, 0⟩ : CellKey) ∈ VoxelGrid.reach tools { cellSize := size } (.dot 4) := by
    decide +kernel
  have hfits : Fits size tools ([.dot 4] ++ [s]) := fits_pair_iff.mpr (by decide +kernel)
  -- no layer can be counted above the one that the first segment lies in
  have hover : ¬ Fits size tools ([high] ++ [s]) := fits_pair_iff.not.mpr (by decide +kernel)
  refine ⟨build?_eq_none (v := {}) (by decide) (by decide) hover, h, rfl, hcut, _,
    build?_eq (v := {}) (by decide) (by decide) hfits, ?_⟩
  obtain ⟨p, hp, hkey⟩ := horigin
  refine ⟨p, hp, ?_⟩
  rw [hkey, state_keepTranslations]
  have hrecorded : Recorded (grown size tools ([.dot 4] ++ [s])) 9 :=
    recorded_grown size tools h.ordered (by decide)
  have hstate := hrecorded.state_past ⟨0, 0, 0⟩ (Nat.le_refl 9)
  have huncut : (apply tools (grown size tools [.dot 4]) s).events ⟨0, 0, 0⟩ =
      (grown size tools [.dot 4]).events ⟨0, 0, 0⟩ :=
    events_apply_cut rfl hcut (indexed_grown size tools [.dot 4]) fun p _ hcolumn =>
      absurd hcolumn (not_cutsColumn (by rwa [cellSize_grown]) p 0 0)
  refine hstate.trans ?_
  rw [grown_concat, huncut, events_grown_singleton hfilled]
  decide

end VoxelGrid
end Toolpath
