import Toolpath.Geometry.Circle
import Toolpath.Geometry.Plane

/-! Circular and helical moves, and their expansion into straight segments. An arc can ask for more
points than there is room for; then its expansion has no answer. -/

namespace Toolpath

inductive ArcCenter
  | offset (u v : Float)
  /-- A signed radius; a negative one stands for the longer arc. -/
  | radius (r : Float)
  deriving DecidableEq

structure Arc where
  start : Point
  target : Point
  plane : Plane
  center : ArcCenter
  clockwise : Bool
  deriving DecidableEq

structure ArcResolution where
  segmentLength : Float := 1.0
  radiusFixup : Bool := false
  deriving DecidableEq

namespace ArcResolution

def ofLength (segmentLength : Float) (radiusFixup : Bool) :
    Except (GeometryError Float) ArcResolution :=
  if segmentLength.isNaN || segmentLength ≤ 0.0 then .error (.segmentLengthNotPositive segmentLength)
  else .ok ⟨segmentLength, radiusFixup⟩

end ArcResolution

namespace Arc

def coincidence : Float := 1e-9

def resolveCenter (a : Arc) (r : ArcResolution) (du dv : Float) :
    Except (GeometryError Float) ((Float × Float) × Bool) :=
  match a.center with
  | .offset u v =>
    if u.beq 0.0 && v.beq 0.0 then .error .zeroCenterOffset
    else .ok ((u, v), du.abs < coincidence && dv.abs < coincidence)
  | .radius radius =>
    (Circle.center Circle.tolerance du dv radius a.clockwise r.radiusFixup).map (·, false)

structure Helix where
  centerU : Float
  centerV : Float
  radius : Float
  startAngle : Float
  sweep : Float
  startW : Float
  rise : Float

namespace Helix

def length (h : Helix) : Float :=
  let planar := h.radius * h.sweep.abs
  (planar * planar + h.rise * h.rise).sqrt

def segments (h : Helix) (segmentLength : Float) : Nat :=
  max 1 (roundFloat .ceiling .word64 (h.length / segmentLength)).toNat

def pointAt (h : Helix) (p : Plane) (t : Float) : Point :=
  let angle := h.startAngle + h.sweep * t
  p.unproject (h.centerU + h.radius * angle.cos) (h.centerV + h.radius * angle.sin)
    (h.startW + h.rise * t)

end Helix

def helix (a : Arc) (r : ArcResolution) : Except (GeometryError Float) Helix := do
  let (su, sv, sw) := a.plane.project a.start
  let (tu, tv, tw) := a.plane.project a.target
  let ((i, j), full) ← a.resolveCenter r (tu - su) (tv - sv)
  let cu := su + i
  let cv := sv + j
  let startAngle := Float.atan2 (-j) (-i)
  let endAngle := Float.atan2 (tv - cv) (tu - cu)
  return {
    centerU := cu
    centerV := cv
    radius := (i * i + j * j).sqrt
    startAngle
    sweep := Circle.sweep Circle.tau startAngle endAngle a.clockwise full
    startW := sw
    rise := tw - sw }

def points (a : Arc) (h : Helix) (n : Nat) : List Point :=
  let inner := (List.range (n - 1)).map fun k =>
    h.pointAt a.plane (Float.ofNat (k + 1) / Float.ofNat n)
  inner ++ [a.target]

def expand (a : Arc) (r : ArcResolution) : Except (GeometryError Float) (Option (List Point)) :=
  (a.helix r).map fun h =>
    let n := h.segments r.segmentLength
    if Point.room < n then none else some (a.points h n)

end Arc
end Toolpath
