import Std.Data.HashMap
import Toolpath.Fault
import Toolpath.Geometry.Point
import Toolpath.Settings.Basic
import Toolpath.Voxel.Cell

/-! A sparse grid of cells, and where its cells lie in space. -/

namespace Toolpath

structure CellSize where
  width : Float
  height : Float
  deriving DecidableEq

structure Center where
  x : Float32
  y : Float32
  z : Float32
  deriving DecidableEq

namespace CellSize

def ofSettings (v : Settings.Voxels) : Except Fault CellSize :=
  if 0.0 < v.cellWidth && 0.0 < v.cellHeight then .ok ⟨v.cellWidth, v.cellHeight⟩
  else .error (.misconfigured (.cellSize v.cellWidth v.cellHeight))

def coordinate (x unit : Float) : Int := roundFloat .floor .signed32 (x / unit)

/-- Points below the bed belong to the lowest layer. -/
def keyOf (s : CellSize) (p : Point) : CellKey :=
  ⟨coordinate p.x s.width, coordinate p.y s.width, max 0 (coordinate p.z s.height)⟩

def middle (n : Int) (unit : Float) : Float32 := ((Float.ofInt n + 0.5) * unit).toFloat32

def center (s : CellSize) (k : CellKey) : Center :=
  ⟨middle k.x s.width, middle k.y s.width, middle k.z s.height⟩

end CellSize

structure VoxelGrid where
  cellSize : CellSize
  cells : Array Cell := #[]
  index : Std.HashMap CellKey Nat := ∅
  hasSubtractive : Bool := false
  /-- The highest layer reached by an additive tool. -/
  maxLayer : Int := 0
  translations : Option (Array Center) := none

structure Instances where
  translations : Array Center
  colors : Array Color
  deriving DecidableEq

namespace VoxelGrid

def size (g : VoxelGrid) : Nat := g.cells.size

def isEmpty (g : VoxelGrid) : Bool := g.cells.isEmpty

def cell? (g : VoxelGrid) (k : CellKey) : Option Cell :=
  match g.index[k]? with
  | some i => g.cells[i]?
  | none => none

def state (g : VoxelGrid) (k : CellKey) (offset : Nat) : CellState :=
  ((g.cell? k).map (·.state offset)).getD .absent

def events (g : VoxelGrid) (k : CellKey) : Array CellEvent := ((g.cell? k).map (·.events)).getD #[]

def presentCount (g : VoxelGrid) (offset : Nat) : Nat :=
  g.cells.countP fun c => c.state offset == .present

def touch (e : CellEvent) (color : Color) (g : VoxelGrid) (k : CellKey) : VoxelGrid :=
  match g.index[k]? with
  | some i => { g with cells := g.cells.modify i (Cell.record e) }
  | none => { g with index := g.index.insert k g.cells.size, cells := g.cells.push ⟨k, color, #[e]⟩ }

def centers (g : VoxelGrid) : Array Center := g.cells.map fun c => g.cellSize.center c.key

def keepTranslations (g : VoxelGrid) : VoxelGrid := { g with translations := some g.centers }

def retainsTranslations (g : VoxelGrid) : Bool := g.translations.isSome

/-- Without cuts the centers are asked for once, and let go then. -/
def instances (g : VoxelGrid) : VoxelGrid × Instances :=
  let result : Instances :=
    { translations := g.translations.getD g.centers
      colors := g.cells.map fun c => c.color.withAlpha 1.0 }
  (if g.hasSubtractive then g else { g with translations := none }, result)

end VoxelGrid
end Toolpath
