/-! Points and axes. Lengths are millimetres and Z is vertical. -/

namespace Toolpath

inductive Axis
  | x
  | y
  | z
  deriving DecidableEq, Repr

namespace Axis

def all : List Axis := [x, y, z]

def letter : Axis → Char
  | x => 'X'
  | y => 'Y'
  | z => 'Z'

def index : Axis → Nat
  | x => 0
  | y => 1
  | z => 2

end Axis

structure Point where
  x : Float
  y : Float
  z : Float
  deriving DecidableEq

namespace Point

def zero : Point := ⟨0.0, 0.0, 0.0⟩

instance : Inhabited Point := ⟨zero⟩

/-- How many points a list has room for: each takes 24 bytes, and a list takes fewer than 2^63. -/
def room : Nat := (1 <<< 63 - 1) / 24

def get (p : Point) : Axis → Float
  | .x => p.x
  | .y => p.y
  | .z => p.z

def set (p : Point) (a : Axis) (v : Float) : Point :=
  match a with
  | .x => { p with x := v }
  | .y => { p with y := v }
  | .z => { p with z := v }

instance : Add Point := ⟨fun p q => ⟨p.x + q.x, p.y + q.y, p.z + q.z⟩⟩
instance : Sub Point := ⟨fun p q => ⟨p.x - q.x, p.y - q.y, p.z - q.z⟩⟩

def scale (p : Point) (t : Float) : Point := ⟨p.x * t, p.y * t, p.z * t⟩

def divide (p : Point) (t : Float) : Point := ⟨p.x / t, p.y / t, p.z / t⟩

def norm (p : Point) : Float := (p.x * p.x + p.y * p.y + p.z * p.z).sqrt

def distance (p q : Point) : Float := (p - q).norm

def toward (p q : Point) (t : Float) : Point := p + (q - p).scale t

def blend (p q : Point) (t : Float) : Point := p.scale (1.0 - t) + q.scale t

def isZero (p : Point) : Bool := p.x.beq 0.0 && p.y.beq 0.0 && p.z.beq 0.0

end Point
end Toolpath
