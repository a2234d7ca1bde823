import Toolpath.Geometry.Point

/-! The three working planes of circular moves. -/

namespace Toolpath

inductive Plane
  | xy
  | xz
  | yz
  deriving DecidableEq, Repr, Inhabited

namespace Plane

def axes : Plane → Axis × Axis × Axis
  | xy => (.x, .y, .z)
  | xz => (.z, .x, .y)
  | yz => (.y, .z, .x)

def project (p : Plane) (q : Point) : Float × Float × Float :=
  let (u, v, w) := p.axes
  (q.get u, q.get v, q.get w)

def unproject (p : Plane) (u v w : Float) : Point :=
  let (au, av, aw) := p.axes
  ((Point.zero.set au u).set av v).set aw w

def offsetLetters : Plane → Char × Char
  | xy => ('I', 'J')
  | xz => ('K', 'I')
  | yz => ('J', 'K')

def name : Plane → String
  | xy => "XY plane (G17)"
  | xz => "XZ plane (G18)"
  | yz => "YZ plane (G19)"

theorem unproject_project (p : Plane) (q : Point) :
    p.unproject (p.project q).1 (p.project q).2.1 (p.project q).2.2 = q := by
  cases p <;> rfl

end Plane
end Toolpath
