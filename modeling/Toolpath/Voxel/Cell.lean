import Toolpath.Bisect
import Toolpath.Color

/-! Cells of a voxel grid. Each keeps a log of what was done to it, from which its state at any
offset can be read. -/

namespace Toolpath

structure CellKey where
  x : Int
  y : Int
  z : Int
  deriving DecidableEq, Hashable, Repr

structure CellEvent where
  offset : Nat
  adds : Bool
  deriving DecidableEq, Repr

inductive CellState
  | absent
  | present
  deriving DecidableEq, Repr

def CellState.name : CellState → String
  | absent => "Absent"
  | present => "Present"

structure Cell where
  key : CellKey
  color : Color
  events : Array CellEvent
  deriving DecidableEq

namespace Cell

def lastEvent? (c : Cell) (offset : Nat) : Option CellEvent :=
  match partitionPoint (fun e : CellEvent => e.offset ≤ offset) c.events with
  | 0 => none
  | k + 1 => c.events[k]?

def state (c : Cell) (offset : Nat) : CellState :=
  if (c.lastEvent? offset).any (·.adds) then .present else .absent

def record (e : CellEvent) (c : Cell) : Cell :=
  if c.events.back? = some e then c else { c with events := c.events.push e }

end Cell
end Toolpath
