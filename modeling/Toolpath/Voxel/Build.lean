import Toolpath.Segment.Store
import Toolpath.Voxel.Grid

/-! The grid of a program: additive tools fill the cells along their beads, and the cells below where
the bead is taller than a cell; subtractive tools clear the cells around them, from the height of
the cut up to the highest layer and one more. A segment overflows that asks for a cell beyond 32 bits,
or for more points than there is room for, and a build that comes to one has no answer. -/

namespace Toolpath

def intRange (lo hi : Int) : List Int :=
  (List.range (hi + 1 - lo).toNat).map fun (k : Nat) => lo + k

namespace VoxelGrid

def steps (size : CellSize) (s : Segment) : Nat :=
  max 1 (roundFloat .ceiling .word64 (s.length / (size.width / 2.0))).toNat

/-- Points along a segment, half a cell apart or less, moved up by `shift`. -/
def samples (size : CellSize) (s : Segment) (shift : Float) : List Point :=
  (List.range (steps size s + 1)).map fun k =>
    s.start.blend s.stop (Float.ofNat k / Float.ofNat (steps size s)) + ⟨0.0, 0.0, shift⟩

def beadDepth (size : CellSize) (s : Segment) : Int :=
  if size.height < s.layerHeight then
    roundFloat .ceiling .signed32 (s.layerHeight / size.height)
  else 1

def downFrom (k : CellKey) (depth : Int) : List CellKey :=
  (List.range (min depth (k.z + 1)).toNat).map fun (below : Nat) => { k with z := k.z - below }

def fill (g : VoxelGrid) (s : Segment) : VoxelGrid :=
  let depth := beadDepth g.cellSize s
  (samples g.cellSize s (-g.cellSize.height / 2.0)).foldl (fun g p =>
    let key := g.cellSize.keyOf p
    let g := { g with maxLayer := max g.maxLayer key.z }
    (downFrom key depth).foldl (touch ⟨s.offset, true⟩ s.color) g) g

def withinRadius (size : CellSize) (p : Point) (radius : Float) (k : CellKey) : Bool :=
  let c := size.center k
  let dx := c.x.toFloat - p.x
  let dy := c.y.toFloat - p.y
  !(radius * radius < dx * dx + dy * dy)

def cutReach (size : CellSize) (radius : Float) : Int :=
  roundFloat .ceiling .signed32 (radius / size.width)

def columns (size : CellSize) (p : Point) (radius : Float) : List CellKey :=
  let center := size.keyOf p
  let reach := cutReach size radius
  (intRange (-reach) reach).flatMap fun dx =>
    ((intRange (-reach) reach).map fun dy =>
      ({ center with x := center.x + dx, y := center.y + dy } : CellKey)).filter fun k =>
        k = center || withinRadius size p radius k

def upTo (top : Int) (k : CellKey) : List CellKey :=
  (intRange k.z top).map fun z => { k with z }

def cut (g : VoxelGrid) (s : Segment) (radius : Float) : VoxelGrid :=
  let keys := (samples g.cellSize s 0.0).flatMap fun p =>
    (columns g.cellSize p radius).flatMap (upTo (g.maxLayer + 1))
  keys.foldl (touch ⟨s.offset, false⟩ s.color) { g with hasSubtractive := true }

def apply (tools : ToolTable) (g : VoxelGrid) (s : Segment) : VoxelGrid :=
  if s.isTravel then g
  else
    let tool := tools.get s.tool
    if tool.isAdditive then g.fill s else g.cut s tool.radius

def columnsFit (size : CellSize) (p : Point) (radius : Float) : Bool :=
  let center := size.keyOf p
  let reach := cutReach size radius
  reach < 0 || [center.x, center.y].all fun n =>
    IntRange.signed32.holds (n - reach) && IntRange.signed32.holds (n + reach)

/-- Whether a cut stays within the cells that can be counted, below the one on top of layer `top`. -/
def cutFits (size : CellSize) (top : Int) (s : Segment) (radius : Float) : Bool :=
  IntRange.signed32.holds (top + 1) && IntRange.signed32.holds (-cutReach size radius) &&
    (samples size s 0.0).all (columnsFit size · radius)

def fits (tools : ToolTable) (size : CellSize) (top : Int) (s : Segment) : Bool :=
  let tool := tools.get s.tool
  s.isTravel ||
    steps size s < Point.room && (tool.isAdditive || cutFits size top s tool.radius)

def extend? (tools : ToolTable) (g : VoxelGrid) (s : Segment) : Option VoxelGrid :=
  if fits tools g.cellSize g.maxLayer s then some (apply tools g s) else none

def reportInterval : Nat := 10000

def reports (n : Nat) : List Float32 :=
  ((List.range ((n + reportInterval - 1) / reportInterval)).map fun k =>
    Float32.ofNat (k * reportInterval) / Float32.ofNat (max 1 n)) ++ [1.0]

def ofSegments (size : CellSize) (tools : ToolTable) (segments : Array Segment) : VoxelGrid :=
  (segments.foldl (apply tools) { cellSize := size }).keepTranslations

def ofSegments? (size : CellSize) (tools : ToolTable) (segments : List Segment) : Option VoxelGrid :=
  (segments.foldlM (extend? tools) { cellSize := size }).map keepTranslations

/-- The host may refuse to go on at any report, counting from one. -/
def build (store : Store) (tools : ToolTable) (settings : Settings.Voxels)
    (refuses : Nat → Bool := fun _ => false) : Except Fault VoxelGrid × List Float32 :=
  match CellSize.ofSettings settings with
  | .error e => (.error e, [])
  | .ok size =>
    let all := reports store.size
    match (List.range all.length).find? fun k => refuses (k + 1) with
    | some k => (.error .cancelled, all.take (k + 1))
    | none => (.ok (ofSegments size tools store.segments), all)

/-- There is no answer if a segment overflows that comes before the report at which the host refuses. -/
def build? (store : Store) (tools : ToolTable) (settings : Settings.Voxels)
    (refuses : Nat → Bool := fun _ => false) : Option (Except Fault VoxelGrid × List Float32) :=
  match CellSize.ofSettings settings with
  | .error e => some (.error e, [])
  | .ok size =>
    let all := reports store.size
    match (List.range all.length).find? fun k => refuses (k + 1) with
    | some k =>
      (ofSegments? size tools (store.segments.toList.take (k * reportInterval))).map fun _ =>
        (.error .cancelled, all.take (k + 1))
    | none => (ofSegments? size tools store.segments.toList).map fun g => (.ok g, all)

end VoxelGrid
end Toolpath
