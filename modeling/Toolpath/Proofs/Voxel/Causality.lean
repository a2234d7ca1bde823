import Toolpath.Proofs.Segment.Stream
import Toolpath.Proofs.Voxel.Log

/-! Later segments never disturb the past: at every offset a grid holds what it would hold if the
program ended there. -/

namespace Toolpath
namespace VoxelGrid

variable {g : VoxelGrid}

lemma apply_induction {P : VoxelGrid → Prop} {s : Segment} (tools : ToolTable)
    (htouch : ∀ g e color k, e.offset = s.offset → P g → P (touch e color g k))
    (hframe : ∀ g g', g'.cells = g.cells → g'.index = g.index → P g → P g') (h : P g) :
    P (apply tools g s) := by
  have hcells : ∀ (keys : List CellKey) (e : CellEvent) (g : VoxelGrid), e.offset = s.offset →
      P g → P (keys.foldl (touch e s.color) g) := by
    intro keys e g he hg
    exact List.foldlRecOn keys _ hg fun g hg k _ => htouch g e s.color k he hg
  rw [apply]
  split
  · exact h
  · dsimp only
    split
    · refine List.foldlRecOn _ _ h fun g hg p _ => ?_
      exact hcells _ _ _ rfl (hframe g _ rfl rfl hg)
    · exact hcells _ _ _ rfl (hframe g _ rfl rfl h)

lemma events_congr {g' : VoxelGrid} (hc : g'.cells = g.cells) (hi : g'.index = g.index)
    (k : CellKey) : g'.events k = g.events k := by
  rw [events, events, cell?, cell?, hc, hi]

lemma Indexed.congr {g' : VoxelGrid} (h : Indexed g) (hc : g'.cells = g.cells)
    (hi : g'.index = g.index) : Indexed g' := by
  intro k i
  rw [hc, hi]
  exact h k i

structure Recorded (g : VoxelGrid) (o : Nat) : Prop where
  indexed : Indexed g
  ordered : ∀ k, InOrder CellEvent.offset (g.events k).toList
  past : ∀ k, ∀ e ∈ g.events k, e.offset ≤ o

namespace Recorded

variable {o o' : Nat}

lemma empty (size : CellSize) (o : Nat) : Recorded { cellSize := size } o where
  indexed := indexed_empty size
  ordered k := by simp [events, cell?]
  past k e he := by simp [events, cell?] at he

lemma mono (h : Recorded g o) (ho : o ≤ o') : Recorded g o' where
  indexed := h.indexed
  ordered := h.ordered
  past k e he := Nat.le_trans (h.past k e he) ho

lemma congr {g' : VoxelGrid} (h : Recorded g o) (hc : g'.cells = g.cells)
    (hi : g'.index = g.index) : Recorded g' o where
  indexed := h.indexed.congr hc hi
  ordered k := events_congr hc hi k ▸ h.ordered k
  past k := events_congr hc hi k ▸ h.past k

lemma touch {e : CellEvent} (h : Recorded g e.offset) (color : Color) (k : CellKey) :
    Recorded (touch e color g k) e.offset where
  indexed := h.indexed.touch e color k
  ordered k' := by
    rw [h.indexed.events_touch]
    split
    · exact Log.ordered_record (h.ordered k) (h.past k)
    · exact h.ordered k'
  past k' d hd := by
    rw [h.indexed.events_touch] at hd
    split at hd
    · rcases Log.mem_record hd with hd | rfl
      · exact h.past k d hd
      · exact Nat.le_refl _
    · exact h.past k' d hd

lemma apply (tools : ToolTable) {s : Segment} (h : Recorded g s.offset) :
    Recorded (apply tools g s) s.offset := by
  apply apply_induction (P := fun g => Recorded g s.offset) tools ?_ ?_ h
  · intro g e color k he hg
    rw [← he] at hg ⊢
    exact hg.touch color k
  · intro g g' hc hi hg
    exact hg.congr hc hi

lemma foldl (tools : ToolTable) {segments : List Segment} {top : Nat} (h : Recorded g o)
    (ho : o ≤ top) (hs : InOrder Segment.offset segments)
    (hlo : ∀ s ∈ segments, o ≤ s.offset) (hhi : ∀ s ∈ segments, s.offset ≤ top) :
    Recorded (segments.foldl (VoxelGrid.apply tools) g) top := by
  induction segments generalizing g o with
  | nil => exact h.mono ho
  | cons s rest ih =>
    obtain ⟨hs, hrest⟩ := List.pairwise_cons.mp hs
    -- the bound on all offsets rises with each segment
    have hg := (h.mono (hlo s List.mem_cons_self)).apply tools
    exact ih hg (hhi s List.mem_cons_self) hrest hs fun t ht => hhi t (List.mem_cons_of_mem s ht)

lemma state_eq (h : Recorded g o) (k : CellKey) (x : Nat) :
    g.state k x = Log.final (Log.upTo x (g.events k)) := by
  have ho := h.ordered k
  rw [state]
  unfold events at ho ⊢
  cases hc : g.cell? k with
  | none => rfl
  | some c =>
    rw [hc] at ho
    exact c.state_eq ho x

lemma state_past (h : Recorded g o) (k : CellKey) {x : Nat} (hx : o ≤ x) :
    g.state k x = Log.final (g.events k).toList := by
  rw [h.state_eq, Log.upTo_eq_self fun e he => Nat.le_trans (h.past k e he) hx]

end Recorded

def AgreeUpTo (o : Nat) (g g' : VoxelGrid) : Prop :=
  ∀ k, Log.upTo o (g'.events k) = Log.upTo o (g.events k)

lemma AgreeUpTo.apply {o : Nat} {g' : VoxelGrid} (tools : ToolTable) {s : Segment}
    (hs : o < s.offset) (hi : Indexed g') (h : AgreeUpTo o g g') :
    Indexed (apply tools g' s) ∧ AgreeUpTo o g (VoxelGrid.apply tools g' s) := by
  apply apply_induction (P := fun g' => Indexed g' ∧ AgreeUpTo o g g') tools ?_ ?_ ⟨hi, h⟩
  · rintro g' e color k he ⟨hi, h⟩
    refine ⟨hi.touch e color k, fun k' => ?_⟩
    rw [hi.events_touch]
    split
    · next hk => rw [Log.upTo_record (he ▸ hs), ← hk, h k']
    · exact h k'
  · rintro g₁ g₂ hc hx ⟨hi, h⟩
    exact ⟨hi.congr hc hx, fun k => by rw [events_congr hc hx, h k]⟩

lemma AgreeUpTo.foldl {o : Nat} {g' : VoxelGrid} (tools : ToolTable) {segments : List Segment}
    (hs : ∀ s ∈ segments, o < s.offset) (hi : Indexed g') (h : AgreeUpTo o g g') :
    Indexed (segments.foldl (VoxelGrid.apply tools) g') ∧
      AgreeUpTo o g (segments.foldl (VoxelGrid.apply tools) g') :=
  List.foldlRecOn (motive := fun g' => Indexed g' ∧ AgreeUpTo o g g') segments _ ⟨hi, h⟩
    fun _ hg s hm => hg.2.apply tools (hs s hm) hg.1

def grown (size : CellSize) (tools : ToolTable) (segments : List Segment) : VoxelGrid :=
  segments.foldl (VoxelGrid.apply tools) { cellSize := size }

lemma recorded_grown (size : CellSize) (tools : ToolTable) {segments : List Segment} {top : Nat}
    (hs : InOrder Segment.offset segments) (htop : ∀ s ∈ segments, s.offset ≤ top) :
    Recorded (grown size tools segments) top :=
  (Recorded.empty size 0).foldl tools (Nat.zero_le top) hs (fun s _ => Nat.zero_le s.offset) htop

lemma state_grown_upTo (size : CellSize) (tools : ToolTable) {segments : List Segment}
    (h : Streamed segments) (k : CellKey) (o : Nat) :
    (grown size tools segments).state k o =
      (grown size tools (segments.filter (·.offset ≤ o))).state k Stamp.maxOffset := by
  have hfull := recorded_grown size tools h.ordered h.fits
  have hearly : Recorded (grown size tools (segments.filter (·.offset ≤ o)))
      (min o Stamp.maxOffset) := by
    apply recorded_grown size tools (h.ordered.sublist List.filter_sublist)
    intro s hs
    obtain ⟨hm, ho⟩ := List.mem_filter.mp hs
    exact Nat.le_min.mpr ⟨of_decide_eq_true ho, h.fits s hm⟩
  have hagree : AgreeUpTo o (grown size tools (segments.filter (·.offset ≤ o)))
      (grown size tools segments) := by
    have hlate : ∀ s ∈ segments.filter (fun s => !decide (s.offset ≤ o)), o < s.offset := by
      intro s hs
      simpa using (List.mem_filter.mp hs).2
    have hsplit : grown size tools segments =
        (segments.filter fun s => !decide (s.offset ≤ o)).foldl (VoxelGrid.apply tools)
          (grown size tools (segments.filter (·.offset ≤ o))) := by
      rw [grown, grown, ← List.foldl_append, (h.ordered.leads o).filter_append]
    -- the early segments come first, and no later one logs anything up to `o`
    rw [hsplit]
    exact (AgreeUpTo.foldl tools hlate hearly.indexed fun k => rfl).2
  calc (grown size tools segments).state k o
      = Log.final (Log.upTo o ((grown size tools segments).events k)) := hfull.state_eq k o
    _ = Log.final (Log.upTo o
          ((grown size tools (segments.filter (·.offset ≤ o))).events k)) := by rw [hagree k]
    _ = (grown size tools (segments.filter (·.offset ≤ o))).state k o := (hearly.state_eq k o).symm
    _ = (grown size tools (segments.filter (·.offset ≤ o))).state k Stamp.maxOffset := by
      rw [hearly.state_past k (Nat.min_le_left ..), hearly.state_past k (Nat.min_le_right ..)]

lemma build_eq {v : Settings.Voxels} (hw : 0.0 < v.cellWidth) (hh : 0.0 < v.cellHeight)
    (store : Store) (tools : ToolTable) :
    (build store tools v).1 =
      .ok (grown ⟨v.cellWidth, v.cellHeight⟩ tools store.segments.toList).keepTranslations := by
  have hsize : CellSize.ofSettings v = .ok ⟨v.cellWidth, v.cellHeight⟩ := by
    simp [CellSize.ofSettings, hw, hh]
  have hgo : ∀ n, (List.range n).find? (fun _ => false) = none := by simp
  rw [build, hsize]
  dsimp only
  rw [hgo, grown, Array.foldl_toList]
  rfl

theorem build_upTo (tools : ToolTable) {v : Settings.Voxels} {store : Store}
    (h : Streamed store.segments.toList) (hw : 0.0 < v.cellWidth) (hh : 0.0 < v.cellHeight)
    (o : Nat) :
    ∃ full early,
      (build store tools v).1 = .ok full ∧ (build (store.upTo o) tools v).1 = .ok early ∧
      (∀ k, full.state k o = early.state k Stamp.maxOffset) ∧
      full.presentCount o = early.presentCount Stamp.maxOffset := by
  refine ⟨_, _, build_eq hw hh store tools, build_eq hw hh (store.upTo o) tools, ?_, ?_⟩
  · intro k
    rw [Store.upTo, Store.toList_segments_ofSegments]
    exact state_grown_upTo _ tools h k o
  · rw [Store.upTo, Store.toList_segments_ofSegments]
    have hcut : Streamed (store.segments.toList.filter (·.offset ≤ o)) :=
      h.sublist List.filter_sublist
    have hfull := recorded_grown ⟨v.cellWidth, v.cellHeight⟩ tools h.ordered h.fits
    have hearly := recorded_grown ⟨v.cellWidth, v.cellHeight⟩ tools hcut.ordered hcut.fits
    exact hfull.indexed.presentCount_congr hearly.indexed fun k => state_grown_upTo _ tools h k o

theorem build_upTo_dots :
    let store : Store := .ofSegments [.dot 4, .dot 4, .dot 9, .dot 700]
    Streamed store.segments.toList ∧
      ∃ full early,
        (build store .standard {}).1 = .ok full ∧
        (build (store.upTo 9) .standard {}).1 = .ok early ∧
        (∀ k, full.state k 9 = early.state k Stamp.maxOffset) ∧
        full.presentCount 9 = early.presentCount Stamp.maxOffset := by
  intro store
  have h : Streamed store.segments.toList := by decide
  exact ⟨h, build_upTo .standard h (by decide) (by decide) 9⟩

end VoxelGrid
end Toolpath
