import Toolpath.Proofs.Voxel.Causality

/-! What one segment does to a grid. It touches the cells in its reach, each with the same event, after
it may have raised the highest layer. -/

namespace Toolpath
namespace Cell

lemma record_record (e : CellEvent) (c : Cell) : (c.record e).record e = c.record e := by
  by_cases hlast : c.events.back? = some e
  · simp [record, hlast]
  · simp [record, hlast]

@[simp] lemma color_record (e : CellEvent) (c : Cell) : (c.record e).color = c.color := by
  rw [record]
  split <;> rfl

end Cell

namespace VoxelGrid

def touchAll (e : CellEvent) (color : Color) (g : VoxelGrid) (keys : List CellKey) : VoxelGrid :=
  keys.foldl (touch e color) g

def withTop (g : VoxelGrid) (top : Int) : VoxelGrid := { g with maxLayer := top }

def beadPoints (size : CellSize) (s : Segment) : List Point := samples size s (-size.height / 2.0)

def bead (size : CellSize) (s : Segment) : List CellKey :=
  (beadPoints size s).flatMap fun p => downFrom (size.keyOf p) (beadDepth size s)

def crest (size : CellSize) (points : List Point) (top : Int) : Int :=
  points.foldl (fun top p => max top (size.keyOf p).z) top

def swath (size : CellSize) (s : Segment) (radius : Float) (top : Int) : List CellKey :=
  (samples size s 0.0).flatMap fun p => (columns size p radius).flatMap (upTo top)

def reach (tools : ToolTable) (g : VoxelGrid) (s : Segment) : List CellKey :=
  if s.isTravel then []
  else if (tools.get s.tool).isAdditive then bead g.cellSize s
  else swath g.cellSize s (tools.get s.tool).radius (g.maxLayer + 1)

def cuts (tools : ToolTable) (s : Segment) : Bool :=
  s.depositing && !(tools.get s.tool).isAdditive

def ready (tools : ToolTable) (g : VoxelGrid) (s : Segment) : VoxelGrid :=
  { g with
    maxLayer :=
      if s.depositing && (tools.get s.tool).isAdditive then
        crest g.cellSize (beadPoints g.cellSize s) g.maxLayer
      else g.maxLayer
    hasSubtractive := g.hasSubtractive || cuts tools s }

variable {g : VoxelGrid} {tools : ToolTable} {s : Segment}

/-! The frame of a touch. -/

section Frame

variable (e : CellEvent) (color : Color) (g : VoxelGrid)

lemma exists_touchAll_eq (keys : List CellKey) :
    ∃ cells index, touchAll e color g keys = { g with cells, index } := by
  refine List.foldlRecOn
    (motive := fun g' : VoxelGrid => ∃ cells index, g' = { g with cells, index }) keys _
    ⟨g.cells, g.index, rfl⟩ fun g' hg' k _ => ?_
  obtain ⟨cells, index, rfl⟩ := hg'
  rw [touch]
  split
  · exact ⟨_, _, rfl⟩
  · exact ⟨_, _, rfl⟩

@[simp] lemma cellSize_touchAll (keys : List CellKey) :
    (touchAll e color g keys).cellSize = g.cellSize := by
  obtain ⟨cells, index, heq⟩ := exists_touchAll_eq e color g keys
  rw [heq]

@[simp] lemma maxLayer_touchAll (keys : List CellKey) :
    (touchAll e color g keys).maxLayer = g.maxLayer := by
  obtain ⟨cells, index, heq⟩ := exists_touchAll_eq e color g keys
  rw [heq]

@[simp] lemma hasSubtractive_touchAll (keys : List CellKey) :
    (touchAll e color g keys).hasSubtractive = g.hasSubtractive := by
  obtain ⟨cells, index, heq⟩ := exists_touchAll_eq e color g keys
  rw [heq]

lemma touch_withTop (k : CellKey) (top : Int) :
    touch e color (g.withTop top) k = (touch e color g k).withTop top := by
  have hindex : (g.withTop top).index = g.index := rfl
  rw [touch, touch, hindex]
  split <;> rfl

lemma touchAll_withTop (keys : List CellKey) (top : Int) :
    touchAll e color (g.withTop top) keys = (touchAll e color g keys).withTop top :=
  List.foldl_hom (withTop · top) fun g k => touch_withTop e color g k top

lemma foldl_fill (depth : Int) (points : List Point) :
    points.foldl (fun g p =>
        touchAll e color (g.withTop (max g.maxLayer (g.cellSize.keyOf p).z))
          (downFrom (g.cellSize.keyOf p) depth)) g =
      touchAll e color (g.withTop (crest g.cellSize points g.maxLayer))
        (points.flatMap fun p => downFrom (g.cellSize.keyOf p) depth) := by
  induction points generalizing g with
  | nil => rfl
  | cons p points ih =>
    have happend (g : VoxelGrid) (keys more : List CellKey) :
        touchAll e color g (keys ++ more) = touchAll e color (touchAll e color g keys) more :=
      List.foldl_append
    rw [List.foldl_cons, ih, cellSize_touchAll, maxLayer_touchAll, ← touchAll_withTop,
      List.flatMap_cons, happend]
    rfl

end Frame

lemma fill_eq (g : VoxelGrid) (s : Segment) :
    g.fill s = touchAll ⟨s.offset, true⟩ s.color
      (g.withTop (crest g.cellSize (beadPoints g.cellSize s) g.maxLayer)) (bead g.cellSize s) :=
  foldl_fill ⟨s.offset, true⟩ s.color g (beadDepth g.cellSize s) (beadPoints g.cellSize s)

lemma apply_eq_touchAll (tools : ToolTable) (g : VoxelGrid) (s : Segment) :
    apply tools g s = touchAll ⟨s.offset, (tools.get s.tool).isAdditive⟩ s.color
      (g.ready tools s) (g.reach tools s) := by
  unfold apply ready reach cuts Segment.isTravel
  dsimp only
  cases hd : s.depositing with
  | false =>
    simp only [Bool.not_false, if_true, Bool.false_and, Bool.or_false]
    rfl
  | true =>
    cases (tools.get s.tool).isAdditive with
    | true =>
      simp only [Bool.not_true, Bool.false_eq_true, if_false, if_true, Bool.and_self, Bool.and_false,
        Bool.or_false]
      exact fill_eq g s
    | false =>
      simp only [Bool.not_true, Bool.not_false, Bool.false_eq_true, if_false, Bool.and_false,
        Bool.and_self, Bool.or_true]
      rfl

/-! The cells that a touch leaves. -/

namespace Indexed

lemma touchAll (h : Indexed g) (e : CellEvent) (color : Color) (keys : List CellKey) :
    Indexed (touchAll e color g keys) :=
  List.foldlRecOn (motive := Indexed) keys _ h fun _ hg k _ => hg.touch e color k

lemma cell?_touchAll (h : Indexed g) (e : CellEvent) (color : Color) (keys : List CellKey)
    (k : CellKey) :
    (VoxelGrid.touchAll e color g keys).cell? k =
      if k ∈ keys then some (((g.cell? k).map (Cell.record e)).getD ⟨k, color, #[e]⟩)
      else g.cell? k := by
  induction keys generalizing g with
  | nil => rfl
  | cons first keys ih =>
    have hrest := ih (h.touch e color first)
    rw [VoxelGrid.touchAll] at hrest ⊢
    rw [List.foldl_cons, hrest, h.cell?_touch]
    by_cases hfirst : k = first
    · subst hfirst
      -- the second event of its kind is not recorded
      have honce : (((g.cell? k).map (Cell.record e)).getD ⟨k, color, #[e]⟩).record e =
          ((g.cell? k).map (Cell.record e)).getD ⟨k, color, #[e]⟩ := by
        cases g.cell? k with
        | none => simp [Cell.record]
        | some c => exact c.record_record e
      simp [honce]
    · simp [hfirst]

lemma events_touchAll (h : Indexed g) (e : CellEvent) (color : Color) (keys : List CellKey)
    (k : CellKey) :
    (VoxelGrid.touchAll e color g keys).events k =
      if k ∈ keys then Log.record (g.events k) e else g.events k := by
  rw [events, h.cell?_touchAll]
  split
  · rw [events]
    cases g.cell? k with
    | none => rfl
    | some c => simp
  · rfl

lemma events_apply (h : Indexed g) (tools : ToolTable) (s : Segment) (k : CellKey) :
    (VoxelGrid.apply tools g s).events k =
      if k ∈ g.reach tools s then
        Log.record (g.events k) ⟨s.offset, (tools.get s.tool).isAdditive⟩
      else g.events k := by
  have hready : Indexed (g.ready tools s) := h.congr rfl rfl
  rw [apply_eq_touchAll, hready.events_touchAll]
  rfl

end Indexed

inductive Touched (e : CellEvent) (color : Color) (g : VoxelGrid) (keys : List CellKey) : Cell → Prop
  | kept {c : Cell} (hc : c ∈ g.cells) : Touched e color g keys c
  | logged {c : Cell} (hc : c ∈ g.cells) (hk : c.key ∈ keys) : Touched e color g keys (c.record e)
  | founded {k : CellKey} (hk : k ∈ keys) (hnew : g.cell? k = none) :
    Touched e color g keys ⟨k, color, #[e]⟩

lemma Indexed.touched (h : Indexed g) {e : CellEvent} {color : Color} {keys : List CellKey} {c : Cell}
    (hc : c ∈ (VoxelGrid.touchAll e color g keys).cells) : Touched e color g keys c := by
  have hcell := ((h.touchAll e color keys).cell?_eq_some_iff c.key c).mpr ⟨hc, rfl⟩
  rw [h.cell?_touchAll] at hcell
  split at hcell
  · next hk =>
    cases hold : g.cell? c.key with
    | none =>
      rw [hold] at hcell
      rw [← Option.some.inj hcell]
      exact .founded hk hold
    | some old =>
      obtain ⟨hmem, hkey⟩ := (h.cell?_eq_some_iff _ _).mp hold
      rw [hold] at hcell
      rw [← Option.some.inj hcell]
      exact .logged hmem (hkey ▸ hk)
  · exact .kept ((h.cell?_eq_some_iff _ _).mp hcell).1

end VoxelGrid
end Toolpath
