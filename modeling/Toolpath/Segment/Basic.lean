import Toolpath.Color
import Toolpath.Geometry.Point

/-! Drawn segments, the layers that they start, and the box around them. -/

namespace Toolpath

inductive MoveKind
  | rapid
  | linear
  | arcClockwise
  | arcCounter
  deriving DecidableEq, Repr, Inhabited

namespace MoveKind

def name : MoveKind → String
  | rapid => "Rapid"
  | linear => "Linear"
  | arcClockwise => "ArcCw"
  | arcCounter => "ArcCcw"

def ofName? : String → Option MoveKind
  | "Rapid" => some rapid
  | "Linear" => some linear
  | "ArcCw" => some arcClockwise
  | "ArcCcw" => some arcCounter
  | _ => none

end MoveKind

/-- Where a line stands in its program: its number, and the byte offset just past it. -/
structure Stamp where
  line : Nat
  offset : Nat
  deriving DecidableEq, Repr

def Stamp.maxOffset : Nat := 1 <<< 64 - 1

structure Segment where
  start : Point
  stop : Point
  stamp : Stamp
  tool : Nat
  color : Color
  depositing : Bool
  perimeter : Bool
  layerHeight : Float
  feedRate : Float
  kind : MoveKind
  deriving DecidableEq

namespace Segment

def offset (s : Segment) : Nat := s.stamp.offset

def length (s : Segment) : Float := s.start.distance s.stop

def isTravel (s : Segment) : Bool := !s.depositing

end Segment

structure Layer where
  height : Float
  stamp : Stamp
  firstSegment : Nat
  deriving DecidableEq

structure Bounds where
  min : Point
  max : Point
  deriving DecidableEq

namespace Bounds

def lesser (a b : Float) : Float := if a < b then a else b
def greater (a b : Float) : Float := if b < a then a else b

def ofPoint (p : Point) : Bounds := ⟨p, p⟩

def extend (b : Bounds) (p : Point) : Bounds where
  min := ⟨lesser b.min.x p.x, lesser b.min.y p.y, lesser b.min.z p.z⟩
  max := ⟨greater b.max.x p.x, greater b.max.y p.y, greater b.max.z p.z⟩

def size (b : Bounds) : Point := b.max - b.min

def center (b : Bounds) : Point := (b.min + b.max).divide 2.0

end Bounds
end Toolpath
