import Toolpath.Decimal.Dyadic

/-! Decimals with a fixed number of places: the exact value rounded to nearest, a half to the even
neighbour. -/

namespace Toolpath.Decimal

def roundHalfEven (num den : Nat) : Nat :=
  let d := num / den
  match compare (2 * (num % den)) den with
  | .lt => d
  | .gt => d + 1
  | .eq => if d % 2 == 0 then d else d + 1

def roundPlaces (places mantissa : Nat) (exponent : Int) : Nat :=
  let num := mantissa * Nat.pow 10 places
  if 0 ≤ exponent then num <<< exponent.toNat
  else roundHalfEven num (1 <<< (-exponent).toNat)

def placesText (places n : Nat) : String :=
  let whole := toString (n / Nat.pow 10 places)
  if places == 0 then whole
  else
    let rest := toString (n % Nat.pow 10 places)
    whole ++ "." ++ String.ofList (List.replicate (places - rest.length) '0') ++ rest

/-- Fixed places with a sign also on a negative value that rounds to zero. -/
def fixed (places : Nat) (x : Float) : String :=
  match Dyadic.ofFloat x with
  | .nan => "NaN"
  | .infinite negative => if negative then "-inf" else "inf"
  | .finite negative m e =>
    let text := placesText places (roundPlaces places m e)
    if negative then "-" ++ text else text

end Toolpath.Decimal
