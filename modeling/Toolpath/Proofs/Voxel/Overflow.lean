import Toolpath.Proofs.Voxel.Survey

/-! Builds that overflow. A grid is what its segments make of it one after another as long as each of
them fits into the grid of those before it; otherwise there is none. -/

namespace Toolpath
namespace VoxelGrid

variable {size : CellSize} {tools : ToolTable} {segments : List Segment} {s : Segment}

def Fits (size : CellSize) (tools : ToolTable) (segments : List Segment) : Prop :=
  ∀ earlier s later, segments = earlier ++ s :: later →
    fits tools size (grown size tools earlier).maxLayer s

lemma fits_nil (size : CellSize) (tools : ToolTable) : Fits size tools [] := by
  intro earlier s later h
  simp at h

lemma fits_concat_iff :
    Fits size tools (segments ++ [s]) ↔
      Fits size tools segments ∧ fits tools size (grown size tools segments).maxLayer s := by
  constructor
  · refine fun h => ⟨fun earlier t later hsplit => h earlier t (later ++ [s]) ?_, h segments s [] rfl⟩
    rw [hsplit, List.append_assoc]
    rfl
  · rintro ⟨h, hs⟩ earlier t later hsplit
    cases later using List.reverseRecOn with
    | nil =>
      obtain ⟨rfl, ht⟩ := List.append_inj' hsplit rfl
      rwa [← List.singleton_inj.mp ht]
    | append_singleton later last =>
      rw [← List.cons_append, ← List.append_assoc] at hsplit
      obtain ⟨hearlier, _⟩ := List.append_inj' hsplit rfl
      exact h earlier t later hearlier

lemma fits_pair_iff {t : Segment} :
    Fits size tools ([s] ++ [t]) ↔ fits tools size 0 s ∧
      fits tools size (VoxelGrid.ready tools { cellSize := size } s).maxLayer t := by
  have hfirst : Fits size tools ([] ++ [s]) ↔ fits tools size 0 s :=
    fits_concat_iff.trans (and_iff_right (fits_nil size tools))
  have htop : (grown size tools [s]).maxLayer =
      (VoxelGrid.ready tools { cellSize := size } s).maxLayer :=
    maxLayer_apply tools { cellSize := size } s
  rw [fits_concat_iff, htop]
  exact and_congr_left' hfirst

lemma extend?_eq_some_iff {g g' : VoxelGrid} :
    extend? tools g s = some g' ↔ fits tools g.cellSize g.maxLayer s ∧ apply tools g s = g' := by
  rw [extend?, Option.ite_none_right_eq_some, Option.some_inj]

lemma foldlM_extend?_eq_some_iff {g : VoxelGrid} :
    segments.foldlM (extend? tools) { cellSize := size } = some g ↔
      Fits size tools segments ∧ grown size tools segments = g := by
  induction segments using List.reverseRecOn generalizing g with
  | nil => exact Option.some_inj.trans (and_iff_right (fits_nil size tools)).symm
  | append_singleton segments s ih =>
    have hsize := cellSize_grown size tools segments
    rw [List.foldlM_append, Option.bind_eq_bind, Option.bind_eq_some_iff]
    simp only [ih, List.foldlM_cons, List.foldlM_nil, bind_pure, fits_concat_iff, grown_concat,
      extend?_eq_some_iff]
    constructor
    · rintro ⟨_, ⟨hfits, rfl⟩, hs, rfl⟩
      rw [hsize] at hs
      exact ⟨⟨hfits, hs⟩, rfl⟩
    · rintro ⟨⟨hfits, hs⟩, rfl⟩
      exact ⟨_, ⟨hfits, rfl⟩, by rwa [hsize], rfl⟩

lemma ofSegments?_eq_some_iff {g : VoxelGrid} :
    ofSegments? size tools segments = some g ↔
      Fits size tools segments ∧ (grown size tools segments).keepTranslations = g := by
  simp only [ofSegments?, Option.map_eq_some_iff, foldlM_extend?_eq_some_iff]
  constructor
  · rintro ⟨_, ⟨hfits, rfl⟩, rfl⟩
    exact ⟨hfits, rfl⟩
  · rintro ⟨hfits, rfl⟩
    exact ⟨_, ⟨hfits, rfl⟩, rfl⟩

lemma ofSegments_eq (size : CellSize) (tools : ToolTable) (segments : Array Segment) :
    ofSegments size tools segments = (grown size tools segments.toList).keepTranslations := by
  rw [ofSegments, grown, Array.foldl_toList]

theorem build_of_build? {store : Store} {v : Settings.Voxels} {refuses : Nat → Bool}
    {answer : Except Fault VoxelGrid × List Float32} (h : build? store tools v refuses = some answer) :
    build store tools v refuses = answer := by
  rw [build?] at h
  rw [build]
  cases hsize : CellSize.ofSettings v with
  | error e =>
    rw [hsize] at h
    exact Option.some.inj h
  | ok size =>
    rw [hsize] at h
    dsimp only at h ⊢
    split at h
    · obtain ⟨_, _, rfl⟩ := Option.map_eq_some_iff.mp h
      rfl
    · obtain ⟨g, hg, rfl⟩ := Option.map_eq_some_iff.mp h
      rw [ofSegments_eq, (ofSegments?_eq_some_iff.mp hg).2]

section Build

variable {v : Settings.Voxels} (hw : 0.0 < v.cellWidth) (hh : 0.0 < v.cellHeight)

include hw hh

lemma map_build? (tools : ToolTable) (segments : List Segment) :
    (build? (.ofSegments segments) tools v).map (·.1) =
      (ofSegments? ⟨v.cellWidth, v.cellHeight⟩ tools segments).map .ok := by
  have hsize : CellSize.ofSettings v = .ok ⟨v.cellWidth, v.cellHeight⟩ := by
    simp [CellSize.ofSettings, hw, hh]
  have hgo : ∀ n, (List.range n).find? (fun _ => false) = none := by simp
  rw [build?, hsize]
  dsimp only
  rw [hgo, Store.toList_segments_ofSegments]
  exact Option.map_map ..

lemma build?_eq (h : Fits ⟨v.cellWidth, v.cellHeight⟩ tools segments) :
    (build? (.ofSegments segments) tools v).map (·.1) =
      some (.ok (grown ⟨v.cellWidth, v.cellHeight⟩ tools segments).keepTranslations) := by
  rw [map_build? hw hh, ofSegments?_eq_some_iff.mpr ⟨h, rfl⟩]
  rfl

lemma build?_eq_none (h : ¬ Fits ⟨v.cellWidth, v.cellHeight⟩ tools segments) :
    build? (.ofSegments segments) tools v = none := by
  have hnone : ofSegments? ⟨v.cellWidth, v.cellHeight⟩ tools segments = none :=
    Option.eq_none_iff_forall_ne_some.mpr fun g hg => h (ofSegments?_eq_some_iff.mp hg).1
  have hmap := map_build? hw hh tools segments
  rw [hnone] at hmap
  exact Option.map_eq_none_iff.mp hmap

end Build

end VoxelGrid
end Toolpath
