/-! Numerals in text. Integers have an optional sign and digits; reals also have a point with digits
on either side or both, a power of ten, and the words for infinity and for no number. -/

namespace Toolpath.Numeral

def isDigit (c : Char) : Bool := '0' ≤ c && c ≤ '9'

def digitsValue (acc : Nat) (cs : List Char) : Nat :=
  cs.foldl (fun n c => 10 * n + (c.toNat - '0'.toNat)) acc

def nat? (cs : List Char) : Option Nat :=
  if cs.isEmpty || !cs.all isDigit then none else some (digitsValue 0 cs)

def bounded? (bound : Nat) (cs : List Char) : Option Nat :=
  let digits := match cs with
    | '+' :: rest => rest
    | _ => cs
  (nat? digits).filter (· ≤ bound)

structure Scientific where
  digits : Nat
  exponent : Int

def exponent? : List Char → Option Int
  | '-' :: cs => (nat? cs).map fun n => -(n : Int)
  | '+' :: cs => (nat? cs).map fun n => (n : Int)
  | cs => (nat? cs).map fun n => (n : Int)

def scientific? (cs : List Char) : Option Scientific := do
  let whole := cs.takeWhile isDigit
  let rest := cs.dropWhile isDigit
  let (fraction, rest) := match rest with
    | '.' :: rest => (rest.takeWhile isDigit, rest.dropWhile isDigit)
    | _ => ([], rest)
  if whole.isEmpty && fraction.isEmpty then none
  let digits := digitsValue (digitsValue 0 whole) fraction
  let shift : Int := fraction.length
  match rest with
  | [] => some ⟨digits, -shift⟩
  | c :: power =>
    if c = 'e' || c = 'E' then (exponent? power).map fun e => ⟨digits, e - shift⟩ else none

inductive Real
  | number (n : Scientific)
  | infinity
  | nan

def lowerAscii (cs : List Char) : List Char := cs.map Char.toLower

def unsigned? (cs : List Char) : Option Real :=
  let word := lowerAscii cs
  if word = "inf".toList || word = "infinity".toList then some .infinity
  else if word = "nan".toList then some .nan
  else (scientific? cs).map .number

def splitSign : List Char → Bool × List Char
  | '-' :: cs => (true, cs)
  | '+' :: cs => (false, cs)
  | cs => (false, cs)

namespace Scientific

def width (n : Scientific) : Nat := (Nat.toDigits 10 n.digits).length

/-- Numerals whose leading digit lies far outside every binary format are replaced by the nearest
value that rounds alike, so that no power of ten grows with the text. -/
def normalize (n : Scientific) : Scientific :=
  if n.digits = 0 then ⟨0, 0⟩
  else
    let power : Int := n.exponent + n.width
    if 400 < power then ⟨1, 400⟩ else if power < -400 then ⟨0, 0⟩ else n

def toFloat (n : Scientific) : Float :=
  let n := n.normalize
  Float.ofScientific n.digits (n.exponent < 0) n.exponent.natAbs

def toFloat32 (n : Scientific) : Float32 :=
  let n := n.normalize
  Float32.ofScientific n.digits (n.exponent < 0) n.exponent.natAbs

end Scientific

def nan : Float := 0.0 / 0.0
def infinity : Float := 1.0 / 0.0
def nan32 : Float32 := 0.0 / 0.0
def infinity32 : Float32 := 1.0 / 0.0

def float? (cs : List Char) : Option Float :=
  let (negative, rest) := splitSign cs
  (unsigned? rest).map fun r =>
    let x := match r with
      | .number n => n.toFloat
      | .infinity => infinity
      | .nan => nan
    if negative then -x else x

def float32? (cs : List Char) : Option Float32 :=
  let (negative, rest) := splitSign cs
  (unsigned? rest).map fun r =>
    let x := match r with
      | .number n => n.toFloat32
      | .infinity => infinity32
      | .nan => nan32
    if negative then -x else x

def bool? (cs : List Char) : Option Bool :=
  if cs = "true".toList then some true
  else if cs = "false".toList then some false
  else none

end Toolpath.Numeral
