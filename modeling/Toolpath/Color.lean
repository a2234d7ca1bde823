import Toolpath.Decimal.Dyadic
import Toolpath.Text.Blank
import Toolpath.Text.Hex

/-! Colors with four single-precision components, and their hexadecimal texts. -/

namespace Toolpath

structure Color where
  r : Float32
  g : Float32
  b : Float32
  a : Float32
  deriving DecidableEq

def unitClamp (x : Float32) : Float32 := if x < 0.0 then 0.0 else if 1.0 < x then 1.0 else x

namespace Color

def rgb (r g b : Float32) : Color := ⟨r, g, b, 1.0⟩

def white : Color := rgb 1.0 1.0 1.0
def black : Color := rgb 0.0 0.0 0.0
def red : Color := rgb 1.0 0.0 0.0
def green : Color := rgb 0.0 1.0 0.0
def blue : Color := rgb 0.0 0.0 1.0
def transparent : Color := ⟨0.0, 0.0, 0.0, 0.0⟩

instance : Inhabited Color := ⟨white⟩

/-- Zeros of either sign agree, and no color with a component that is no number agrees with any. -/
def agrees (c d : Color) : Bool :=
  c.r.beq d.r && c.g.beq d.g && c.b.beq d.b && c.a.beq d.a

def channel? (c d : Char) : Option Nat :=
  if c = '+' then Text.hexDigit? d
  else do
    let high ← Text.hexDigit? c
    let low ← Text.hexDigit? d
    return 16 * high + low

def ofChannel (n : Nat) : Float32 := Float32.ofNat n / 255.0

/-- Six or eight digits behind any number of `#`. Without a fourth pair the color is opaque. -/
def ofHex? (text : List Char) : Option Color :=
  match (Text.trim text).dropWhile (· == '#') with
  | [r, r', g, g', b, b'] => do
    return ⟨ofChannel (← channel? r r'), ofChannel (← channel? g g'), ofChannel (← channel? b b'),
      1.0⟩
  | [r, r', g, g', b, b', a, a'] => do
    return ⟨ofChannel (← channel? r r'), ofChannel (← channel? g g'), ofChannel (← channel? b b'),
      ofChannel (← channel? a a')⟩
  | _ => none

def byte (x : Float32) : Nat := (roundFloat32 .nearest .byte (unitClamp x * 255.0)).toNat

def toHex (c : Color) : List Char :=
  '#' :: Text.hexByte (byte c.r) ++ Text.hexByte (byte c.g) ++ Text.hexByte (byte c.b) ++
    (if 1.0 ≤ c.a then [] else Text.hexByte (byte c.a))

def hexText (c : Color) : String := String.ofList c.toHex

def lerp (c d : Color) (t : Float32) : Color :=
  let t := unitClamp t
  ⟨c.r + (d.r - c.r) * t, c.g + (d.g - c.g) * t, c.b + (d.b - c.b) * t, c.a + (d.a - c.a) * t⟩

def darken (c : Color) (delta : Float32) : Color :=
  ⟨unitClamp (c.r - delta), unitClamp (c.g - delta), unitClamp (c.b - delta), c.a⟩

def withAlpha (c : Color) (a : Float32) : Color := { c with a }

def unreadableMessage (text : String) : String := "Invalid color: " ++ text

end Color
end Toolpath
