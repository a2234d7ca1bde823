import Toolpath.Geometry.Error

/-! Centers and sweeps of circular moves, over any numbers with a square root. Programs run in
floating point; the laws are those of the real numbers. -/

namespace Toolpath

class Scalar (α : Type) where
  sqrt : α → α
  abs : α → α

instance : Scalar Float := ⟨Float.sqrt, Float.abs⟩

namespace Circle

section

variable {α : Type} [Add α] [Sub α] [Mul α] [Div α] [Neg α] [LT α] [LE α] [DecidableLT α]
  [DecidableLE α] [Scalar α]

structure Tolerance (α : Type) where
  chord : α
  radius : α

/-- A positive radius stands for the shorter arc, a negative one for the longer. One that is too
small by no more than the tolerance, or by any amount under `fixup`, is read as half the chord. -/
def center [OfNat α 0] [OfNat α 1] [OfNat α 2] [OfNat α 4] (tol : Tolerance α) (du dv r : α)
    (clockwise fixup : Bool) : Except (GeometryError α) (α × α) :=
  let chord := du * du + dv * dv
  if chord ≤ tol.chord then .error .zeroChord
  else
    let minimum := Scalar.sqrt chord / 2
    let height := r * r - chord / 4
    if height < 0 ∧ ¬ (minimum * (1 - tol.radius) ≤ Scalar.abs r ∨ fixup) then
      .error (.radiusTooSmall (Scalar.abs r) minimum)
    else
      let height := if height < 0 then 0 else height
      let ratio := Scalar.sqrt (height / chord)
      let ratio := if (clockwise ∧ r < 0) ∨ (¬ clockwise ∧ 0 < r) then -ratio else ratio
      .ok (du / 2 + dv * ratio, dv / 2 - du * ratio)

def sweep [OfNat α 0] (tau start stop : α) (clockwise full : Bool) : α :=
  if full then if clockwise then -tau else tau
  else
    let total := if clockwise then start - stop else stop - start
    let total := if total < 0 then total + tau else total
    if clockwise then -total else total

end

def pi : Float := 3.141592653589793
def tau : Float := 6.283185307179586

def tolerance : Tolerance Float := ⟨2.220446049250313e-16, 1e-3⟩

end Circle
end Toolpath
