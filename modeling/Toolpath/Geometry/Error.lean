import Toolpath.Decimal.Fixed
import Toolpath.Decimal.Layout

/-! Why a circular move cannot be drawn. -/

namespace Toolpath

inductive GeometryError (α : Type)
  | zeroChord
  | zeroCenterOffset
  | radiusTooSmall (radius minimum : α)
  | segmentLengthNotPositive (length : α)
  deriving DecidableEq, Repr

def GeometryError.message : GeometryError Float → String
  | .zeroChord => "Arc chord has zero length"
  | .zeroCenterOffset => "Arc center offset is zero"
  | .radiusTooSmall r m =>
    "Arc radius " ++ Decimal.fixed 4 r ++ " is smaller than the minimum " ++ Decimal.fixed 4 m
  | .segmentLengthNotPositive l => "Segment length must be positive, got " ++ Decimal.plain l

end Toolpath
