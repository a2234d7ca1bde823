import Toolpath.Decimal.Shortest

/-! Texts of shortest decimals: the plain layout of messages, which never has an exponent, and the
compact layout of data files, which always shows that the number is not an integer. -/

namespace Toolpath.Decimal

def zeros (n : Nat) : String := String.ofList (List.replicate n '0')

def positional (d : Decimal) : String :=
  let text := toString d.digits
  if 0 ≤ d.exponent then text ++ zeros d.exponent.toNat
  else
    let places := (-d.exponent).toNat
    if text.length ≤ places then "0." ++ zeros (places - text.length) ++ text
    else
      let chars := text.toList
      let whole := text.length - places
      String.ofList (chars.take whole) ++ "." ++ String.ofList (chars.drop whole)

def scientific (d : Decimal) : String :=
  let chars := (toString d.digits).toList
  let power : Int := d.exponent + (chars.length - 1 : Nat)
  let lead := String.ofList (chars.take 1)
  let rest := if chars.length ≤ 1 then "" else "." ++ String.ofList (chars.drop 1)
  let sign := if power < 0 then "-" else "+"
  lead ++ rest ++ "e" ++ sign ++ toString power.natAbs

def leadingPower (d : Decimal) : Int := d.exponent + ((toString d.digits).length - 1 : Nat)

def compactText (d : Decimal) : String :=
  if -5 ≤ d.leadingPower && d.leadingPower < 16 then
    if 0 ≤ d.exponent then d.positional ++ ".0" else d.positional
  else d.scientific

def signed (negative : Bool) (text : String) : String := if negative then "-" ++ text else text

def plainText (f : BinaryFormat) : Dyadic → String
  | .nan => "NaN"
  | .infinite negative => signed negative "inf"
  | .finite negative 0 _ => signed negative "0"
  | .finite negative m e => signed negative (shortest f .up m e).positional

def plain (x : Float) : String := plainText .binary64 (Dyadic.ofFloat x)
def plain32 (x : Float32) : String := plainText .binary32 (Dyadic.ofFloat32 x)

def compact? (x : Float) : Option String :=
  match Dyadic.ofFloat x with
  | .nan | .infinite _ => none
  | .finite negative 0 _ => some (signed negative "0.0")
  | .finite negative m e => some (signed negative (shortest .binary64 .even m e).compactText)

end Toolpath.Decimal
