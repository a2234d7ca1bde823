import Toolpath.Playback.Cursor
import Toolpath.Voxel.Grid

/-! Playback of a grid: cells that change as the cursor moves forward are highlighted for a while. -/

namespace Toolpath

inductive CellPhase
  | absent
  | adding
  | present
  | removing
  deriving DecidableEq, Repr

structure VoxelPlayback where
  scrubDistance : Nat
  highlightTicks : Nat
  /-- Ticks since each cell changed, up to the length of a highlight. -/
  counters : Array Nat
  cursor : Cursor := {}
  deriving DecidableEq

namespace VoxelPlayback

def ofGrid (g : VoxelGrid) (settings : Settings) : VoxelPlayback where
  scrubDistance := settings.playback.scrubDistance
  highlightTicks := settings.voxel.highlightTicks
  counters := Array.replicate g.size settings.voxel.highlightTicks

def forceRedraw (p : VoxelPlayback) : VoxelPlayback := { p with cursor := p.cursor.forceRedraw }

def changed (c : Cell) (last offset : Nat) : Bool := (c.lastEvent? offset).any (last < ·.offset)

def fullPass (p : VoxelPlayback) (offset : Nat) : VoxelPlayback :=
  { p with counters := p.counters.map fun _ => p.highlightTicks, cursor := .moveTo offset }

def incremental (p : VoxelPlayback) (g : VoxelGrid) (last offset : Nat) : VoxelPlayback :=
  { p with
    counters :=
      if last < offset then
        p.counters.mapIdx fun i n => if g.cells[i]?.any (changed · last offset) then 0 else n
      else p.counters
    cursor := .moveTo offset }

def advance (p : VoxelPlayback) (g : VoxelGrid) (offset : Nat) : VoxelPlayback × AdvanceKind :=
  match p.cursor.base? p.scrubDistance offset with
  | none => (p.fullPass offset, .fullPass)
  | some last => (p.incremental g last offset, .incremental)

def tick (p : VoxelPlayback) : VoxelPlayback × Nat :=
  let step := fun n => if n < p.highlightTicks then n + 1 else n
  let counters := p.counters.map step
  ({ p with counters }, counters.countP (· < p.highlightTicks))

def phase (p : VoxelPlayback) (g : VoxelGrid) (i : Nat) : CellPhase :=
  match g.cells[i]?, p.cursor.offset with
  | some cell, some offset =>
    let fresh := p.counters[i]?.any (· < p.highlightTicks)
    match cell.lastEvent? offset with
    | none => .absent
    | some e =>
      if e.adds then if fresh then .adding else .present
      else if fresh then .removing else .absent
  | _, _ => .absent

def addingColor : Color := ⟨0.0, 1.0, 0.0, 0.8⟩
def removingColor : Color := ⟨1.0, 0.0, 0.0, 0.8⟩

def color (p : VoxelPlayback) (g : VoxelGrid) (i : Nat) : Color :=
  match p.phase g i, g.cells[i]? with
  | .adding, _ => addingColor
  | .removing, _ => removingColor
  | .present, some cell => cell.color.withAlpha 1.0
  | _, _ => .transparent

end VoxelPlayback
end Toolpath
