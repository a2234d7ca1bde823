import Toolpath.Decimal.Dyadic

/-! The shortest decimal that reads back as a given binary value: the fewest digits inside the
interval of reals that round to it, and the nearest of those. -/

namespace Toolpath

structure Decimal where
  digits : Nat
  exponent : Int
  deriving DecidableEq, Repr

inductive Tie
  | up
  | even
  deriving DecidableEq, Repr

namespace Decimal

structure Interval where
  lower : Nat
  value : Nat
  upper : Nat
  den : Nat
  closed : Bool

/-- Half a unit up, and half a unit down or a quarter where the next value below lies closer. The
ends belong to it iff the mantissa is even. -/
def interval (f : BinaryFormat) (mantissa : Nat) (exponent : Int) : Interval :=
  let below := if mantissa == 1 <<< (f.precision - 1) && f.minExponent < exponent then 1 else 2
  let e := exponent - 2
  let num := if 0 ≤ e then 1 <<< e.toNat else 1
  let den := if 0 ≤ e then 1 else 1 <<< (-e).toNat
  { lower := (4 * mantissa - below) * num
    value := 4 * mantissa * num
    upper := (4 * mantissa + 2) * num
    den
    closed := mantissa % 2 == 0 }

namespace Interval

def scale (i : Interval) (p : Int) : Interval :=
  let num := if p < 0 then Nat.pow 10 (-p).toNat else 1
  let den := if p < 0 then 1 else Nat.pow 10 p.toNat
  { i with lower := i.lower * num, value := i.value * num, upper := i.upper * num,
           den := i.den * den }

def contains (i : Interval) (d : Nat) : Bool :=
  let x := d * i.den
  if i.closed then i.lower ≤ x && x ≤ i.upper else i.lower < x && x < i.upper

def pick? (t : Tie) (i : Interval) : Option Nat :=
  let d := i.value / i.den
  match i.contains d, i.contains (d + 1) with
  | true, false => some d
  | false, true => some (d + 1)
  | false, false => none
  | true, true =>
    match compare (2 * i.value) ((2 * d + 1) * i.den) with
    | .lt => some d
    | .gt => some (d + 1)
    | .eq => if t == .even && d % 2 == 0 then some d else some (d + 1)

end Interval

def search (t : Tie) (i : Interval) : Nat → Int → Decimal
  | 0, p => ⟨(i.scale p).value / (i.scale p).den, p⟩
  | fuel + 1, p =>
    match (i.scale p).pick? t with
    | some d => ⟨d, p⟩
    | none => search t i fuel (p - 1)

def trim (fuel : Nat) (d : Decimal) : Decimal :=
  match fuel with
  | 0 => d
  | fuel + 1 =>
    if d.digits % 10 == 0 && d.digits != 0 then trim fuel ⟨d.digits / 10, d.exponent + 1⟩ else d

/-- The search starts above the leading digit; twenty grids reach past the last place of either
format. -/
def shortest (f : BinaryFormat) (t : Tie) (mantissa : Nat) (exponent : Int) : Decimal :=
  let size : Int := exponent + mantissa.log2
  trim 20 (search t (interval f mantissa exponent) 20 ((size * 30103).fdiv 100000 + 1))

end Decimal
end Toolpath
