import Toolpath.Geometry.Circle
import Toolpath.Text.Case
import Toolpath.Tool

/-! The settings of the interpreter, of playback and of the voxel simulation. -/

namespace Toolpath

inductive ColorMode
  | flat
  | feed
  | feature
  deriving DecidableEq, Repr, Inhabited

namespace ColorMode

def name : ColorMode → String
  | flat => "flat"
  | feed => "feed"
  | feature => "feature"

def ofName? : String → Option ColorMode
  | "flat" => some flat
  | "feed" => some feed
  | "feature" => some feature
  | _ => none

def ofText? (text : String) : Option ColorMode :=
  let word := String.ofList (Text.lower text.toList)
  if word = "color" ∨ word = "tool" then some flat else ofName? word

def unknownMessage (text : String) : String := "Unknown color mode: " ++ text

end ColorMode

namespace Settings

structure Parsing where
  absoluteByDefault : Bool := true
  arcSegmentLength : Float := 1.0
  arcRadiusFixup : Bool := false
  workingMovesDeposit : Bool := false
  renderTravels : Bool := true
  minSegmentLength : Float := 0.05
  perimeterOnly : Bool := false
  deriving DecidableEq, Inhabited

structure Coloring where
  mode : ColorMode := .flat
  minFeedRate : Float := 1200.0
  maxFeedRate : Float := 3600.0
  minFeedColor : Color := .blue
  maxFeedColor : Color := .red
  progressColor : Color := .green
  travelColor : Color := .red
  darkenDelta : Float32 := ToolTable.defaultDelta
  deriving DecidableEq, Inhabited

def Coloring.feedColor (c : Coloring) (rate : Float) : Color :=
  let span := c.maxFeedRate - c.minFeedRate
  let ratio := if 0.0 < span then (rate - c.minFeedRate) / span else 1.0
  if 1.0 ≤ ratio then c.maxFeedColor
  else if ratio ≤ 0.0 then c.minFeedColor
  else c.minFeedColor.lerp c.maxFeedColor ratio.toFloat32

structure Playing where
  /-- A cursor step longer than this many bytes recomputes everything. -/
  scrubDistance : Nat := 30000
  lookAhead : Nat := 500
  highlightTicks : Nat := 5
  batchSize : Nat := 20000
  ephemeralTravels : Bool := true
  /-- Opacity of segments still to come; without one they are hidden. -/
  hiddenTranslucency : Option Float32 := none
  deriving DecidableEq, Inhabited

structure Belt where
  angle : Float := 35.0
  referenceHeight : Float := 0.2
  deriving DecidableEq, Inhabited

namespace Belt

def radians (degrees : Float) : Float := degrees * (Circle.pi / 180.0)

def shear (b : Belt) : Float := (radians (90.0 - b.angle)).tan

def offset (b : Belt) : Float := b.referenceHeight * b.shear

end Belt

structure Voxels where
  enabled : Bool := false
  cellWidth : Float := 1.0
  cellHeight : Float := 1.0
  highlightTicks : Nat := 5
  deriving DecidableEq, Inhabited

end Settings

structure Settings where
  parser : Settings.Parsing := {}
  color : Settings.Coloring := {}
  playback : Settings.Playing := {}
  belt : Option Settings.Belt := none
  voxel : Settings.Voxels := {}
  tools : List Tool := Tool.standardSet
  deriving DecidableEq, Inhabited

def Settings.toolTable (s : Settings) : ToolTable := .ofList s.tools s.color.darkenDelta

end Toolpath
