import Toolpath.Arc
import Toolpath.Motion.Diagnostics
import Toolpath.Motion.State
import Toolpath.Segment.Store
import Toolpath.Slicer.Classifier
import Toolpath.Token.Comment

/-! The machine that a program runs on. Each line moves it on and draws layers and segments. No fault
of a line stops it; only an arc with more points than there is room for does, and the machine keeps
in mind that it has met one. What it does from then on stands for nothing. -/

namespace Toolpath

structure Machine where
  parsing : Settings.Parsing
  coloring : Settings.Coloring
  resolution : ArcResolution
  tools : ToolTable
  classifier : Classifier
  state : State
  diagnostics : Diagnostics := {}
  overflowed : Bool := false

inductive Emission
  | layer (height : Float)
  | segment (s : Segment)

def Emission.segment? : Emission → Option Segment
  | .layer _ => none
  | .segment s => some s

structure Drawing where
  isInstruction : Bool := false
  emissions : List Emission := []

namespace Drawing

def segments (d : Drawing) : List Segment := d.emissions.filterMap Emission.segment?

def count (d : Drawing) : Nat := d.segments.length

end Drawing

def Store.apply (stamp : Stamp) (st : Store) : Emission → Store
  | .layer height => st.pushLayer height stamp
  | .segment s => st.push s

def Store.draw (st : Store) (stamp : Stamp) (d : Drawing) : Store :=
  let st := if d.isInstruction then st.noteInstruction stamp.offset else st
  d.emissions.foldl (Store.apply stamp) st

namespace Machine

def ofTools (s : Settings) (tools : ToolTable) (style : SlicerStyle) : Except Fault Machine :=
  match ArcResolution.ofLength s.parser.arcSegmentLength s.parser.arcRadiusFixup with
  | .error e => .error (.misconfigured (.arc e))
  | .ok resolution =>
    let color := match s.color.mode with
      | .feed => s.color.feedColor 0.0
      | .flat | .feature => tools.color 0
    .ok {
      parsing := s.parser
      coloring := s.color
      resolution
      tools
      classifier := { style }
      state := .initial s.parser.absoluteByDefault color (s.belt.map .ofSettings) }

def ofSettings (s : Settings) (style : SlicerStyle) : Except Fault Machine :=
  ofTools s s.toolTable style

def record (m : Machine) (f : Fault) : Machine := { m with diagnostics := m.diagnostics.record f }

def recordAll (m : Machine) (fs : List Fault) : Machine :=
  { m with diagnostics := m.diagnostics.recordAll fs }

def setColor (m : Machine) (c : Color) : Machine := { m with state := { m.state with color := c } }

def setTool (m : Machine) (index : Nat) : Machine :=
  let m := { m with state := { m.state with tool := index } }
  if m.coloring.mode = .feed then m else m.setColor (m.tools.color index)

def setFeedRate (m : Machine) (rate : Float) : Machine :=
  let m := { m with state := { m.state with feedRate := rate } }
  if m.coloring.mode = .feed then m.setColor (m.coloring.feedColor rate) else m

def selectTool (m : Machine) (requested : Int) : Machine :=
  let choice := m.tools.resolve requested
  let m := if choice.adjusted
    then m.record (.misconfigured (.toolAdjusted requested choice.index)) else m
  m.setTool choice.index

/-- Takes the parts of each tool's color that it absorbs, in the ratios given, away from white. -/
def mixedColor (tools : ToolTable) (ratios : List Float) : Color :=
  let absorb := fun (c : Color) (part : Color × Float) =>
    let (tool, ratio) := (part.1, part.2.toFloat32)
    { c with r := c.r - (1.0 - tool.r) * ratio, g := c.g - (1.0 - tool.g) * ratio,
             b := c.b - (1.0 - tool.b) * ratio }
  let c := ((tools.tools.toList.map (·.color)).zip ratios).foldl absorb .white
  ⟨unitClamp c.r, unitClamp c.g, unitClamp c.b, 0.1⟩

def mixColors (m : Machine) (i : Instruction) : Machine :=
  if m.coloring.mode = .feed then m
  else
    match i.mix, i.get? 'E' with
    | some ratios, _ => m.setColor (mixedColor m.tools ratios)
    | none, some ratio => m.setColor (mixedColor m.tools [ratio])
    | none, none => m

def applyM (i : Instruction) (m : Machine) (code : Nat) : Machine :=
  match code with
  | 30 | 40 =>
    if 0.0 < i.getD 'S' then { m with state := { m.state with spindleOn := true } } else m
  | 50 => { m with state := { m.state with spindleOn := false } }
  | 5670 => m.mixColors i
  | 6000 => m.setTool ((m.state.tool + 1) % m.tools.size)
  | _ => m

def roundWord (x : Float) : Int := roundFloat .nearest .signed64 x

/-- Zero stands for the active workplace. -/
def workplace? (active : Fin workplaceCount) (p : Int) : Option (Fin workplaceCount) :=
  if p = 0 then some active
  else if h : 1 ≤ p ∧ p ≤ 9 then some ⟨(p - 1).toNat, by simp only [workplaceCount]; omega⟩
  else none

def setWorkplaceOffset (m : Machine) (i : Instruction) : Machine :=
  let p := roundWord (i.getD 'P')
  let relative := (i.get? 'L').map roundWord = some 20
  match workplace? m.state.workplace p with
  | some w =>
    { m with state := { m.state with
        offsets :=
          m.state.offsets.set w (m.state.newOffset i relative (m.state.offsets.get w)) w.isLt } }
  | none => m.record (.misconfigured (.noWorkplace p))

def moveTo (m : Machine) (p : Point) : Machine := { m with state := m.state.moveTo p }

def renderAllowed (m : Machine) : Bool := !m.parsing.perimeterOnly || m.classifier.isPerimeter

def segmentHeight (m : Machine) : Float :=
  match m.classifier.heightHint with
  | some h => h
  | none =>
    let h := m.state.layerHeight - m.state.previousLayerHeight
    if 0.0 < h then h else if 0.0 < m.state.machine.z then m.state.machine.z else 0.0

def depositColor (m : Machine) : Color :=
  let interior := m.classifier.feature.isSome && !m.classifier.isPerimeter
  if m.coloring.mode = .flat && interior && m.state.color.agrees (m.tools.color m.state.tool) then
    m.tools.darkerColor m.state.tool
  else m.state.color

def trackLayer (m : Machine) (z : Float) : Machine × List Emission :=
  if m.state.layerHeight < z && !m.classifier.isSupport then
    ({ m with state := { m.state with
        previousLayerHeight := m.state.layerHeight, layerHeight := z } }, [.layer z])
  else (m, [])

structure Stroke where
  stamp : Stamp
  depositing : Bool
  layerHeight : Float
  kind : MoveKind

def segment (m : Machine) (k : Stroke) (start stop : Point) : Segment where
  start
  stop
  stamp := k.stamp
  tool := m.state.tool
  color := if k.depositing then m.depositColor else m.coloring.travelColor
  depositing := k.depositing
  perimeter := m.classifier.isPerimeter
  layerHeight := k.layerHeight
  feedRate := m.state.feedRate
  kind := k.kind

def path (m : Machine) (k : Stroke) : Point → List Point → List Segment
  | _, [] => []
  | start, p :: ps =>
    let stop := m.state.toWorld p
    m.segment k start stop :: path m k stop ps

def draw (m : Machine) (k : Stroke) (start : Point) (points : List Point) (z : Float) :
    Machine × List Emission :=
  let (m, layers) := if k.depositing then m.trackLayer z else (m, [])
  (m, layers ++ (m.path k start points).map .segment)

def straightMove (m : Machine) (i : Instruction) (mode : MotionMode) (target : Point)
    (stamp : Stamp) : Machine × List Emission :=
  let start := m.state.position
  let length := start.distance (m.state.toWorld target)
  let extruding := 0.0 < i.getD 'E' || (mode = .linear && m.parsing.workingMovesDeposit)
  let cutting := mode.isWorking && m.state.spindleOn
  let longEnough := m.parsing.workingMovesDeposit || m.parsing.minSegmentLength ≤ length
  let height := m.segmentHeight
  let m' := m.moveTo target
  if !m.renderAllowed || length.beq 0.0 then (m', [])
  else if cutting || (extruding && longEnough) then
    m'.draw ⟨stamp, true, height, mode.kind⟩ start [target] target.z
  else if m.parsing.renderTravels && !extruding then
    m'.draw ⟨stamp, false, height, mode.kind⟩ start [target] target.z
  else (m', [])

def arcCenter (m : Machine) (i : Instruction) : ArcCenter :=
  let toMm := m.state.units.toMm
  match i.get? 'R' with
  | some r => .radius (toMm r)
  | none =>
    let (u, v) := m.state.plane.offsetLetters
    .offset (toMm (i.getD u)) (toMm (i.getD v))

def arcMove (m : Machine) (i : Instruction) (mode : MotionMode) (target : Point) (stamp : Stamp) :
    Machine × List Emission :=
  let arc : Arc := {
    start := m.state.machine
    target
    plane := m.state.plane
    center := m.arcCenter i
    clockwise := mode = .arcClockwise }
  match arc.expand m.resolution with
  | .error e => ((m.record (.degenerate stamp.line e)).moveTo target, [])
  | .ok none => ({ m with overflowed := true }.moveTo target, [])
  | .ok (some points) =>
    let depositing := 0.0 < i.getD 'E' || m.parsing.workingMovesDeposit || m.state.spindleOn
    let m' := m.moveTo target
    if m.renderAllowed && (depositing || m.parsing.renderTravels) then
      m'.draw ⟨stamp, depositing, m.segmentHeight, mode.kind⟩ m.state.position points target.z
    else (m', [])

def move (m : Machine) (i : Instruction) (mode : MotionMode) (machineCoords : Bool)
    (stamp : Stamp) : Machine × List Emission :=
  let target := m.state.target i machineCoords
  match mode with
  | .rapid | .linear => m.straightMove i mode target stamp
  | .arcClockwise | .arcCounter => m.arcMove i mode target stamp

def motion? (m : Machine) (i : Instruction) : Option MotionMode :=
  match ((i.codes 'G').filterMap MotionMode.ofCode?).getLast? with
  | some mode => some mode
  | none =>
    if (i.codes 'G').isEmpty && (i.codes 'M').isEmpty && i.hasAny (Axis.all.map Axis.letter) then
      some m.state.mode
    else none

def prepare (m : Machine) (i : Instruction) (stamp : Stamp) : Machine :=
  let gs := i.codes 'G'
  let ms := i.codes 'M'
  let m := match i.get? 'F' with
    | some rate => m.setFeedRate (m.state.units.toMm rate)
    | none => m
  let m := { m with state := gs.foldl (State.applyCode (i.has 'L')) m.state }
  let m := m.recordAll ((gs.filter (!State.isKnownCode ·)).map fun c =>
    .recoverable stamp.line (.unsupportedCode c))
  let m := ms.foldl (applyM i) m
  match i.get? 'T' with
  | some tool =>
    if gs.isEmpty && ms.all (· == 60) then m.selectTool (roundFloat .truncate .signed64 tool) else m
  | none => m

def execute (m : Machine) (i : Instruction) (stamp : Stamp) : Machine × List Emission :=
  let gs := i.codes 'G'
  let m := m.prepare i stamp
  if gs.contains 100 && i.has 'L' then (m.setWorkplaceOffset i, [])
  else if gs.contains 280 then (m.moveTo (m.state.homeTarget i), [])
  else
    match m.motion? i with
    | some mode =>
      let m := { m with state := { m.state with mode } }
      m.move i mode (gs.contains 530) stamp
    | none => (m, [])

def annotate (m : Machine) (line : List Char) : Machine :=
  let (classifier, recognized) := m.classifier.recognize line
  let m := { m with classifier }
  if recognized && m.coloring.mode = .feature then m.setColor classifier.color else m

def interpret (m : Machine) (line : List Char) (stamp : Stamp) : Machine × Drawing :=
  let line := Text.trim line
  if line.isEmpty then (m, {})
  else if isCommentLine line then (m.annotate line, {})
  else
    let i := Instruction.tokenize (stripComments line)
    if i.isEmpty then (m, { isInstruction := true })
    else
      let m := m.recordAll (i.malformed.map fun w =>
        .recoverable stamp.line (.malformedNumber w))
      let (m, emissions) := m.execute i stamp
      (m, { isInstruction := true, emissions })

end Machine

structure Run where
  machine : Machine
  store : Store := {}

namespace Run

def feed (r : Run) (line : List Char) (stamp : Stamp) : Run :=
  let (machine, drawing) := r.machine.interpret line stamp
  ⟨machine, r.store.draw stamp drawing⟩

def setDiameters (r : Run) (diameters : List Float) : Run :=
  { r with machine.tools :=
      diameters.zipIdx.foldl (fun tools d => tools.setDiameter d.2 d.1) r.machine.tools }

end Run
end Toolpath
