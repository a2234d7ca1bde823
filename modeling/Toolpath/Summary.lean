import Toolpath.Json.Writer
import Toolpath.Playback.Batched
import Toolpath.Session.Basic
import Toolpath.Voxel.Build

/-! What is told about a program: an overview of what it draws, the state at one offset, and the size
of its voxel grid. -/

namespace Toolpath

structure CursorReport where
  offset : Nat
  revealed : Nat
  line : Option Nat
  position : Option Point
  layerHeight : Option Float
  deriving DecidableEq

structure VoxelReport where
  cells : Nat
  present : Nat
  subtractive : Bool
  deriving DecidableEq

structure Summary where
  program : Interpretation
  cursor : Option CursorReport := none
  voxels : Option VoxelReport := none

def CursorReport.ofProgram (p : Interpretation) (settings : Settings) (offset : Nat) :
    CursorReport :=
  let location := p.store.locate offset
  { offset
    revealed := ((BatchedPlayback.ofStore settings p.tools p.store).advance offset).1.revealed
    line := location.map (·.line)
    position := location.map (·.position)
    layerHeight := (p.store.layerAt offset).map (·.height) }

def VoxelReport.ofGrid (g : VoxelGrid) (offset : Nat) : VoxelReport :=
  ⟨g.size, g.presentCount offset, g.hasSubtractive⟩

namespace Summary

def offsets (s : Summary) : Option (Nat × Nat) := do
  return (← s.program.store.minOffset, ← s.program.store.maxOffset)

def instructions (s : Summary) : Option (Nat × Nat) := do
  return (← s.program.store.firstInstruction, ← s.program.store.lastInstruction)

end Summary

/-! The text for readers. -/

def Point.text (p : Point) : String :=
  "(" ++ Decimal.fixed 3 p.x ++ ", " ++ Decimal.fixed 3 p.y ++ ", " ++ Decimal.fixed 3 p.z ++ ")"

def Tool.text (index : Nat) (t : Tool) : String :=
  "Tool " ++ toString index ++ ":      " ++ t.name ++ " [" ++ t.kind.name ++ "] "
    ++ Decimal.fixed 2 t.diameter ++ "mm " ++ t.color.hexText

def CursorReport.text (c : CursorReport) : String :=
  "Cursor " ++ toString c.offset ++ ": " ++ toString c.revealed ++ " revealed"
    ++ (match c.line with
      | some line => ", line " ++ toString line
      | none => "")
    ++ (match c.position with
      | some p => " at " ++ p.text
      | none => "")

def VoxelReport.text (v : VoxelReport) : String :=
  "Voxels:      " ++ toString v.cells ++ " cells, " ++ toString v.present ++ " present"
    ++ (if v.subtractive then ", subtractive" else "")

def Diagnostics.text (d : Diagnostics) : String :=
  "Problems:    " ++ toString d.recoverable ++ " recoverable, " ++ toString d.degenerate
    ++ " degenerate arcs, " ++ toString d.misconfigured ++ " config warnings"

namespace Summary

def textLines (s : Summary) : List String :=
  let store := s.program.store
  let diagnostics := s.program.diagnostics
  ["Slicer:      " ++ s.program.style.name,
    "Segments:    " ++ toString store.size ++ " (" ++ toString store.depositingCount
      ++ " depositing)",
    "Layers:      " ++ toString store.layers.size]
  ++ (s.offsets.map fun (lo, hi) =>
    "Offsets:     " ++ toString lo ++ "..=" ++ toString hi).toList
  ++ (store.bounds.map fun b => "Bounds:      " ++ b.min.text ++ " - " ++ b.max.text).toList
  ++ (store.feedRange.map fun (lo, hi) =>
    "Feed:        " ++ Decimal.fixed 0 lo ++ ".." ++ Decimal.fixed 0 hi ++ " mm/min").toList
  ++ s.program.tools.tools.toList.mapIdx Tool.text
  ++ (if diagnostics.isClean then [] else [diagnostics.text])
  ++ (s.cursor.map (·.text)).toList
  ++ (s.voxels.map (·.text)).toList

def text (s : Summary) : String := String.join (s.textLines.map (· ++ "\n"))

end Summary

/-! The document for programs. -/

namespace Document

def nat (n : Nat) : Document := .int n

def ofOption (write : α → Document) : Option α → Document
  | some x => write x
  | none => .null

def pair (write : α → Document) (p : α × α) : Document := .list [write p.1, write p.2]

def point (p : Point) : Document := .list [.float p.x, .float p.y, .float p.z]

end Document

def Tool.reportDocument (t : Tool) : Document :=
  .table [("name", .text t.name), ("kind", .text t.kind.name), ("diameter", .float t.diameter),
    ("color", .text t.color.hexText)]

def CursorReport.toDocument (c : CursorReport) : Document :=
  .table [("offset", .nat c.offset), ("revealed_segments", .nat c.revealed),
    ("line_number", .ofOption .nat c.line), ("position", .ofOption .point c.position),
    ("layer_height", .ofOption .float c.layerHeight)]

def VoxelReport.toDocument (v : VoxelReport) : Document :=
  .table [("cells", .nat v.cells), ("present", .nat v.present), ("subtractive", .bool v.subtractive)]

namespace Summary

def toDocument (s : Summary) : Document :=
  let store := s.program.store
  let diagnostics := s.program.diagnostics
  .table [
    ("slicer", .text s.program.style.name),
    ("segments", .nat store.size),
    ("depositing_segments", .nat store.depositingCount),
    ("layers", .nat store.layers.size),
    ("offsets", .ofOption (.pair .nat) s.offsets),
    ("instructions", .ofOption (.pair .nat) s.instructions),
    ("bounds", .ofOption (fun b => .pair .point (b.min, b.max)) store.bounds),
    ("feed_range", .ofOption (.pair .float) store.feedRange),
    ("max_depositing_height", .ofOption .float store.top),
    ("tools", .list (s.program.tools.tools.toList.map Tool.reportDocument)),
    ("recoverable_problems", .nat diagnostics.recoverable),
    ("degenerate_arcs", .nat diagnostics.degenerate),
    ("config_warnings", .nat diagnostics.misconfigured),
    ("cursor", .ofOption CursorReport.toDocument s.cursor),
    ("voxels", .ofOption VoxelReport.toDocument s.voxels)]

def json (s : Summary) : String := Json.writeIndented s.toDocument

end Summary
end Toolpath
