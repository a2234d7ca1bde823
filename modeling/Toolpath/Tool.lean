import Toolpath.Color
import Toolpath.Document.Basic

/-! Tools and the table that programs select them from. -/

namespace Toolpath

inductive ToolKind
  | additive
  | subtractive
  deriving DecidableEq, Repr, Inhabited

namespace ToolKind

def name : ToolKind → String
  | additive => "Additive"
  | subtractive => "Subtractive"

def key : ToolKind → String
  | additive => "additive"
  | subtractive => "subtractive"

def ofKey? : String → Option ToolKind
  | "additive" | "extruder" => some additive
  | "subtractive" | "endmill" => some subtractive
  | _ => none

end ToolKind

structure Tool where
  name : String
  color : Color
  diameter : Float
  kind : ToolKind
  deriving DecidableEq

namespace Tool

def defaultDiameter : Float := 0.4

def standard : Tool := ⟨"Tool #0", .blue, defaultDiameter, .additive⟩

instance : Inhabited Tool := ⟨standard⟩

def isAdditive (t : Tool) : Bool := t.kind == .additive

def radius (t : Tool) : Float := t.diameter / 2.0

def toDocument (t : Tool) : Document :=
  .table [("name", .text t.name), ("color", .text t.color.hexText), ("diameter", .float t.diameter),
    ("kind", .text t.kind.key)]

def standardSet : List Tool :=
  let colors := [Color.rgb 0.0 1.0 1.0, Color.rgb 1.0 0.0 1.0, Color.rgb 1.0 1.0 0.0, .black, .white]
  colors.mapIdx fun i c => ⟨"Tool #" ++ toString i, c, defaultDiameter, .additive⟩

end Tool

structure ToolTable where
  tools : Array Tool
  darker : Array Color
  delta : Float32
  tools_pos : 0 < tools.size
  size_darker : darker.size = tools.size

/-- The number may be `adjusted` because it was out of range. -/
structure ToolChoice where
  index : Nat
  adjusted : Bool
  deriving DecidableEq, Repr

namespace ToolTable

def ofTools (tools : Array Tool) (delta : Float32) (h : 0 < tools.size) : ToolTable where
  tools
  darker := tools.map (·.color.darken delta)
  delta
  tools_pos := h
  size_darker := by simp

/-- Without tools there is one standard tool. -/
def ofList (tools : List Tool) (delta : Float32) : ToolTable :=
  if h : 0 < tools.length then ofTools tools.toArray delta (by simpa using h)
  else ofTools #[Tool.standard] delta (by simp)

def defaultDelta : Float32 := 0.1

def standard : ToolTable := ofList Tool.standardSet defaultDelta

instance : Inhabited ToolTable := ⟨standard⟩

def size (t : ToolTable) : Nat := t.tools.size

/-- Numbers below zero select the first tool, numbers past the end wrap around. -/
def resolve (t : ToolTable) (requested : Int) : ToolChoice :=
  if requested < 0 then ⟨0, true⟩
  else
    let n := requested.toNat
    ⟨n % t.size, t.size ≤ n⟩

def get (t : ToolTable) (i : Nat) : Tool :=
  have h : i % t.tools.size < t.tools.size := Nat.mod_lt _ t.tools_pos
  t.tools[i % t.tools.size]

def color (t : ToolTable) (i : Nat) : Color := (t.get i).color

def darkerColor (t : ToolTable) (i : Nat) : Color :=
  have h : i % t.darker.size < t.darker.size := Nat.mod_lt _ (t.size_darker ▸ t.tools_pos)
  t.darker[i % t.darker.size]

def hasSubtractive (t : ToolTable) : Bool := t.tools.any (!·.isAdditive)

/-- Changes nothing if there is no such tool. -/
def setDiameter (t : ToolTable) (i : Nat) (d : Float) : ToolTable :=
  { t with
    tools := t.tools.modify i fun tool => { tool with diameter := d }
    tools_pos := by simpa using t.tools_pos
    size_darker := by simpa using t.size_darker }

def setColor (t : ToolTable) (i : Nat) (c : Color) : ToolTable :=
  { t with
    tools := t.tools.modify i fun tool => { tool with color := c }
    darker := t.darker.modify i fun _ => c.darken t.delta
    tools_pos := by simpa using t.tools_pos
    size_darker := by simpa using t.size_darker }

def toDocument (t : ToolTable) : Document := .list (t.tools.toList.map Tool.toDocument)

end ToolTable
end Toolpath
