import Mathlib.Algebra.Group.Basic
import Mathlib.Algebra.Order.Group.Unbundled.Int
import Toolpath.Proofs.Rounding
import Toolpath.Proofs.Voxel.Reach

/-! The columns that a tool cuts at a point, and the cells that it clears in them. -/

namespace Toolpath
namespace VoxelGrid

variable {size : CellSize} {s : Segment} {p : Point} {radius : Float} {k : CellKey}

lemma cutReach_nonneg (hw : 0.0 < size.width) (hr : ¬ radius < 0.0) : 0 ≤ cutReach size radius :=
  roundFloat_div_nonneg (by decide) hr hw

structure CutsColumn (size : CellSize) (radius : Float) (p : Point) (x y : Int) : Prop where
  near_x : -cutReach size radius ≤ x - (size.keyOf p).x ∧
    x - (size.keyOf p).x ≤ cutReach size radius
  near_y : -cutReach size radius ≤ y - (size.keyOf p).y ∧
    y - (size.keyOf p).y ≤ cutReach size radius
  close : x = (size.keyOf p).x ∧ y = (size.keyOf p).y ∨
    withinRadius size p radius ⟨x, y, (size.keyOf p).z⟩

lemma cutsColumn_own (h : 0 ≤ cutReach size radius) (p : Point) :
    CutsColumn size radius p (size.keyOf p).x (size.keyOf p).y where
  near_x := by omega
  near_y := by omega
  close := Or.inl ⟨rfl, rfl⟩

lemma not_cutsColumn (h : cutReach size radius < 0) (p : Point) (x y : Int) :
    ¬ CutsColumn size radius p x y := by
  intro hcut
  have := hcut.near_x
  omega

lemma mem_intRange {lo hi z : Int} : z ∈ intRange lo hi ↔ lo ≤ z ∧ z ≤ hi := by
  rw [intRange, List.mem_map]
  constructor
  · rintro ⟨n, hn, rfl⟩
    have := List.mem_range.mp hn
    omega
  · intro h
    exact ⟨(z - lo).toNat, List.mem_range.mpr (by omega), by omega⟩

lemma mem_columns_iff :
    k ∈ columns size p radius ↔ k.z = (size.keyOf p).z ∧ CutsColumn size radius p k.x k.y := by
  rw [columns, List.mem_flatMap]
  constructor
  · rintro ⟨dx, hdx, hk⟩
    obtain ⟨hk, hclose⟩ := List.mem_filter.mp hk
    obtain ⟨dy, hdy, rfl⟩ := List.mem_map.mp hk
    have hx := mem_intRange.mp hdx
    have hy := mem_intRange.mp hdy
    rw [Bool.or_eq_true, decide_eq_true_eq] at hclose
    refine ⟨rfl, ⟨?_, ?_, hclose.imp_left fun hown => ?_⟩⟩
    · dsimp only
      omega
    · dsimp only
      omega
    · exact ⟨congrArg CellKey.x hown, congrArg CellKey.y hown⟩
  · rintro ⟨hz, hcut⟩
    obtain ⟨x, y, z⟩ := k
    dsimp only at hz hcut
    subst hz
    refine ⟨x - (size.keyOf p).x, mem_intRange.mpr hcut.near_x, List.mem_filter.mpr ⟨?_, ?_⟩⟩
    · refine List.mem_map.mpr ⟨y - (size.keyOf p).y, mem_intRange.mpr hcut.near_y, ?_⟩
      rw [add_sub_cancel, add_sub_cancel]
    · rw [Bool.or_eq_true, decide_eq_true_eq]
      refine hcut.close.imp_left fun hown => ?_
      rw [hown.1, hown.2]

lemma mem_swath_iff {top : Int} :
    k ∈ swath size s radius top ↔
      k.z ≤ top ∧ ∃ p ∈ samples size s 0.0,
        CutsColumn size radius p k.x k.y ∧ (size.keyOf p).z ≤ k.z := by
  simp only [swath, List.mem_flatMap, upTo, List.mem_map, mem_intRange]
  constructor
  · rintro ⟨p, hp, column, hcolumn, z, hz, rfl⟩
    obtain ⟨hbottom, hcut⟩ := mem_columns_iff.mp hcolumn
    rw [hbottom] at hz
    exact ⟨hz.2, p, hp, hcut, hz.1⟩
  · rintro ⟨htop, p, hp, hcut, hz⟩
    have hcolumn : ⟨k.x, k.y, (size.keyOf p).z⟩ ∈ columns size p radius :=
      mem_columns_iff.mpr ⟨rfl, hcut⟩
    exact ⟨p, hp, _, hcolumn, k.z, ⟨hz, htop⟩, rfl⟩

end VoxelGrid
end Toolpath
