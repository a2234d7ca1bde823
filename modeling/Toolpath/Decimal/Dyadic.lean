/-! Binary floating-point values as exact dyadic numbers, and their conversion to bounded integers.
Printing and integer rounding both start from here. -/

namespace Toolpath

structure BinaryFormat where
  precision : Nat
  minExponent : Int
  deriving DecidableEq, Repr

namespace BinaryFormat

def binary64 : BinaryFormat := ⟨53, -1074⟩
def binary32 : BinaryFormat := ⟨24, -149⟩

end BinaryFormat

/-- A floating-point datum: `finite` stands for `mantissa * 2 ^ exponent`, with its sign kept also
on zero. -/
inductive Dyadic
  | nan
  | infinite (negative : Bool)
  | finite (negative : Bool) (mantissa : Nat) (exponent : Int)
  deriving DecidableEq, Repr

inductive Rounding
  | floor
  | ceiling
  | truncate
  | nearest
  deriving DecidableEq, Repr

structure IntRange where
  lo : Int
  hi : Int
  deriving DecidableEq, Repr

namespace IntRange

def byte : IntRange := ⟨0, 255⟩
def word32 : IntRange := ⟨0, 0xFFFFFFFF⟩
def word64 : IntRange := ⟨0, 0xFFFFFFFFFFFFFFFF⟩
def signed32 : IntRange := ⟨-0x80000000, 0x7FFFFFFF⟩
def signed64 : IntRange := ⟨-0x8000000000000000, 0x7FFFFFFFFFFFFFFF⟩

def clamp (r : IntRange) (n : Int) : Int := max r.lo (min n r.hi)

def holds (r : IntRange) (n : Int) : Bool := r.lo ≤ n && n ≤ r.hi

end IntRange

namespace Dyadic

def ofBits (fraction exponentBits bits : Nat) : Dyadic :=
  let mantissa := bits % 1 <<< fraction
  let exponent := bits >>> fraction % 1 <<< exponentBits
  let negative := bits >>> (fraction + exponentBits) % 2 == 1
  let bias : Int := (1 <<< (exponentBits - 1) - 1 + fraction : Nat)
  if exponent == 1 <<< exponentBits - 1 then
    if mantissa == 0 then .infinite negative else .nan
  else if exponent == 0 then .finite negative mantissa (1 - bias)
  else .finite negative (mantissa + 1 <<< fraction) (exponent - bias)

def ofFloat (x : Float) : Dyadic := ofBits 52 11 x.toBits.toNat
def ofFloat32 (x : Float32) : Dyadic := ofBits 23 8 x.toBits.toNat

/-- The flag `negative` tells on which side of zero the value lies. -/
def roundMagnitude (r : Rounding) (negative : Bool) (mantissa : Nat) (exponent : Int) : Nat :=
  if 0 ≤ exponent then mantissa <<< exponent.toNat
  else
    let unit := 1 <<< (-exponent).toNat
    let down := mantissa / unit
    let up := (mantissa + (unit - 1)) / unit
    match r with
    | .truncate => down
    | .floor => if negative then up else down
    | .ceiling => if negative then down else up
    | .nearest => (mantissa + unit / 2) / unit

def toInt (r : Rounding) (range : IntRange) : Dyadic → Int
  | .nan => 0
  | .infinite negative => if negative then range.lo else range.hi
  | .finite negative m e =>
    let n : Int := roundMagnitude r negative m e
    range.clamp (if negative then -n else n)

end Dyadic

def roundFloat (r : Rounding) (range : IntRange) (x : Float) : Int :=
  (Dyadic.ofFloat x).toInt r range

def roundFloat32 (r : Rounding) (range : IntRange) (x : Float32) : Int :=
  (Dyadic.ofFloat32 x).toInt r range

end Toolpath
