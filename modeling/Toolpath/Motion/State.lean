import Toolpath.Geometry.Plane
import Toolpath.Segment.Basic
import Toolpath.Settings.Basic
import Toolpath.Token.Instruction
import Toolpath.Units

/-! The state of the machine between two lines. -/

namespace Toolpath

inductive MotionMode
  | rapid
  | linear
  | arcClockwise
  | arcCounter
  deriving DecidableEq, Repr, Inhabited

namespace MotionMode

def ofCode? : Nat → Option MotionMode
  | 0 => some rapid
  | 10 => some linear
  | 20 => some arcClockwise
  | 30 => some arcCounter
  | _ => none

def kind : MotionMode → MoveKind
  | rapid => .rapid
  | linear => .linear
  | arcClockwise => .arcClockwise
  | arcCounter => .arcCounter

def isWorking (m : MotionMode) : Bool := m != .rapid

end MotionMode

/-- A gantry at an angle: machine Z also moves the part along Y. -/
structure BeltGeometry where
  angle : Float
  shear : Float
  offset : Float
  deriving DecidableEq

namespace BeltGeometry

def ofSettings (b : Settings.Belt) : BeltGeometry := ⟨b.angle, b.shear, b.offset⟩

def toWorld (b : BeltGeometry) (p : Point) : Point := ⟨p.x, p.y + p.z * b.shear - b.offset, p.z⟩

end BeltGeometry

abbrev workplaceCount : Nat := 9

structure State where
  position : Point
  machine : Point
  absolute : Bool
  units : Units
  tool : Nat
  color : Color
  workplace : Fin workplaceCount
  offsets : Vector Point workplaceCount
  plane : Plane
  layerHeight : Float
  previousLayerHeight : Float
  belt : Option BeltGeometry
  feedRate : Float
  spindleOn : Bool
  mode : MotionMode
  /-- Set by `G10` alone, cleared by `G11`. -/
  retracted : Bool
  deriving DecidableEq

namespace State

def beltToWorld (belt : Option BeltGeometry) (p : Point) : Point :=
  match belt with
  | some b => b.toWorld p
  | none => p

def toWorld (s : State) (p : Point) : Point := beltToWorld s.belt p

def initial (absolute : Bool) (color : Color) (belt : Option BeltGeometry) : State where
  position := beltToWorld belt .zero
  machine := .zero
  absolute
  units := .millimeters
  tool := 0
  color
  workplace := 0
  offsets := Vector.replicate workplaceCount .zero
  plane := .xy
  layerHeight := 0.0
  previousLayerHeight := 0.0
  belt
  feedRate := 0.0
  spindleOn := false
  mode := .rapid
  retracted := false

def workplaceOffset (s : State) : Point := s.offsets[s.workplace]

def moveTo (s : State) (p : Point) : State := { s with machine := p, position := s.toWorld p }

def workplaceOf? : Nat → Option (Fin workplaceCount)
  | 540 => some 0
  | 550 => some 1
  | 560 => some 2
  | 570 => some 3
  | 580 => some 4
  | 590 => some 5
  | 591 => some 6
  | 592 => some 7
  | 593 => some 8
  | _ => none

def applyCode (hasL : Bool) (s : State) (code : Nat) : State :=
  match code with
  | 100 => if hasL then s else { s with retracted := true }
  | 110 => { s with retracted := false }
  | 170 => { s with plane := .xy }
  | 180 => { s with plane := .xz }
  | 190 => { s with plane := .yz }
  | 200 => { s with units := .inches }
  | 210 => { s with units := .millimeters }
  | 900 => { s with absolute := true }
  | 910 => { s with absolute := false }
  | code =>
    match workplaceOf? code with
    | some w => { s with workplace := w }
    | none => s

def plainCodes : List Nat :=
  [100, 110, 170, 180, 190, 200, 210, 280, 530, 900, 910, 920]

def isKnownCode (code : Nat) : Bool :=
  (MotionMode.ofCode? code).isSome || (workplaceOf? code).isSome || plainCodes.contains code

def target (s : State) (i : Instruction) (machineCoords : Bool) : Point :=
  let offset := if machineCoords then .zero else s.workplaceOffset
  Axis.all.foldl (fun p a =>
    match i.get? a.letter with
    | some v =>
      let v := s.units.toMm v
      p.set a (if s.absolute || machineCoords then v + offset.get a else p.get a + v)
    | none => p) s.machine

def homeTarget (s : State) (i : Instruction) : Point :=
  if i.hasAny (Axis.all.map Axis.letter) then
    Axis.all.foldl (fun p a => if i.has a.letter then p.set a 0.0 else p) s.machine
  else .zero

/-- A relative offset makes the present position read as given. -/
def newOffset (s : State) (i : Instruction) (relative : Bool) (old : Point) : Point :=
  Axis.all.foldl (fun p a =>
    match i.get? a.letter with
    | some v =>
      let v := s.units.toMm v
      p.set a (if relative then s.machine.get a - v else v)
    | none => p) old

end State
end Toolpath
