import Mathlib.Tactic.Lemma
import Toolpath.Motion.Machine

/-! The steps of the machine: what the codes of a line do before the tool moves, and what a move does
and draws on its way. -/

namespace Toolpath

lemma Arc.exists_of_expand {a : Arc} {r : ArcResolution} {points : List Point}
    (h : a.expand r = .ok (some points)) : ∃ inner, points = inner ++ [a.target] := by
  rw [Arc.expand] at h
  cases hh : a.helix r with
  | error e => rw [hh] at h; cases h
  | ok helix =>
    rw [hh] at h
    replace h := Except.ok.inj h
    dsimp only at h
    split at h
    · cases h
    · exact ⟨_, (Option.some.inj h).symm⟩

namespace Machine

lemma ofTools_eq_error {s : Settings}
    (h : s.parser.arcSegmentLength.isNaN ∨ s.parser.arcSegmentLength ≤ 0.0) (tools : ToolTable)
    (style : SlicerStyle) :
    ofTools s tools style =
      .error (.misconfigured (.arc (.segmentLengthNotPositive s.parser.arcSegmentLength))) := by
  rw [ofTools, ArcResolution.ofLength, if_pos (by simpa using h)]

lemma exists_ofTools_iff {s : Settings} {tools : ToolTable} {style : SlicerStyle} :
    (∃ m, ofTools s tools style = .ok m) ↔
      ¬ (s.parser.arcSegmentLength.isNaN ∨ s.parser.arcSegmentLength ≤ 0.0) := by
  constructor
  · rintro ⟨m, hm⟩ h
    rw [ofTools_eq_error h] at hm
    cases hm
  · intro h
    rw [ofTools, ArcResolution.ofLength, if_neg (by simpa using h)]
    exact ⟨_, rfl⟩

def startColor (s : Settings) (tools : ToolTable) : Color :=
  match s.color.mode with
  | .feed => s.color.feedColor 0.0
  | .flat | .feature => tools.color 0

lemma exists_of_ofTools {s : Settings} {tools : ToolTable} {style : SlicerStyle} {m : Machine}
    (h : ofTools s tools style = .ok m) :
    ∃ resolution, m = {
      parsing := s.parser
      coloring := s.color
      resolution
      tools
      classifier := { style }
      state := .initial s.parser.absoluteByDefault (startColor s tools)
        (s.belt.map .ofSettings) } := by
  rw [ofTools] at h
  split at h
  · cases h
  · exact ⟨_, (Except.ok.inj h).symm⟩

/-! The codes of a line, stage by stage. -/

def enterFeed (m : Machine) (i : Instruction) : Machine :=
  match i.get? 'F' with
  | some rate => m.setFeedRate (m.state.units.toMm rate)
  | none => m

def enterModes (m : Machine) (i : Instruction) (stamp : Stamp) : Machine :=
  let codes := i.codes 'G'
  let m := { m with state := codes.foldl (State.applyCode (i.has 'L')) m.state }
  m.recordAll ((codes.filter (!State.isKnownCode ·)).map fun c =>
    .recoverable stamp.line (.unsupportedCode c))

def enterTool (m : Machine) (i : Instruction) : Machine :=
  match i.get? 'T' with
  | some tool =>
    if (i.codes 'G').isEmpty && (i.codes 'M').all (· == 60) then
      m.selectTool (roundFloat .truncate .signed64 tool)
    else m
  | none => m

lemma prepare_eq (m : Machine) (i : Instruction) (stamp : Stamp) :
    m.prepare i stamp =
      ((i.codes 'M').foldl (applyM i) ((m.enterFeed i).enterModes i stamp)).enterTool i := rfl

inductive Moved (m : Machine) (mode : MotionMode) (target : Point) (stamp : Stamp) :
    Machine × List Emission → Prop
  | unseen : Moved m mode target stamp (m.moveTo target, [])
  | degenerate (e : GeometryError Float) :
    Moved m mode target stamp ((m.record (.degenerate stamp.line e)).moveTo target, [])
  | overflow : Moved m mode target stamp ({ m with overflowed := true }.moveTo target, [])
  | drawn (depositing : Bool) (inner : List Point) (hrender : m.renderAllowed)
    (hshown : depositing || m.parsing.renderTravels) :
    Moved m mode target stamp ((m.moveTo target).draw ⟨stamp, depositing, m.segmentHeight, mode.kind⟩
      m.state.position (inner ++ [target]) target.z)

variable (m : Machine) (i : Instruction) (mode : MotionMode) (target : Point) (stamp : Stamp)

lemma moved_straightMove : Moved m mode target stamp (m.straightMove i mode target stamp) := by
  rw [straightMove]
  split
  · exact .unseen
  · next hrender =>
    have hrender : m.renderAllowed := by
      cases hr : m.renderAllowed with
      | true => rfl
      | false => simp [hr] at hrender
    split
    · exact .drawn true [] hrender rfl
    · split
      · next htravel => exact .drawn false [] hrender (Bool.and_eq_true_iff.mp htravel).1
      · exact .unseen

lemma moved_arcMove : Moved m mode target stamp (m.arcMove i mode target stamp) := by
  rw [arcMove]
  dsimp only
  split
  · exact .degenerate _
  · exact .overflow
  · next points hp =>
    obtain ⟨inner, rfl⟩ := Arc.exists_of_expand hp
    split
    · next hrender =>
      obtain ⟨hrender, hshown⟩ := Bool.and_eq_true_iff.mp hrender
      exact .drawn _ inner hrender hshown
    · exact .unseen

lemma moved (machineCoords : Bool) :
    Moved m mode (m.state.target i machineCoords) stamp (m.move i mode machineCoords stamp) := by
  cases mode with
  | rapid => exact moved_straightMove ..
  | linear => exact moved_straightMove ..
  | arcClockwise => exact moved_arcMove ..
  | arcCounter => exact moved_arcMove ..

inductive Executed (m : Machine) (i : Instruction) (stamp : Stamp) : Machine × List Emission → Prop
  | offset : Executed m i stamp (m.setWorkplaceOffset i, [])
  | home : Executed m i stamp (m.moveTo (m.state.homeTarget i), [])
  | move (mode : MotionMode) (machineCoords : Bool) : Executed m i stamp
    ({ m with state := { m.state with mode } }.move i mode machineCoords stamp)
  | idle : Executed m i stamp (m, [])

lemma executed : Executed (m.prepare i stamp) i stamp (m.execute i stamp) := by
  rw [execute]
  dsimp only
  split
  · exact .offset
  · split
    · exact .home
    · split
      · exact .move ..
      · exact .idle

def instruction (line : List Char) : Instruction :=
  Instruction.tokenize (stripComments (Text.trim line))

def malformed (line : List Char) (stamp : Stamp) : List Fault :=
  (instruction line).malformed.map fun w => .recoverable stamp.line (.malformedNumber w)

inductive Interpreted (m : Machine) (line : List Char) (stamp : Stamp) : Machine × Drawing → Prop
  | blank (h : (Text.trim line).isEmpty) : Interpreted m line stamp (m, {})
  | comment (h : isCommentLine (Text.trim line)) :
    Interpreted m line stamp (m.annotate (Text.trim line), {})
  | wordless (h : (instruction line).isEmpty) :
    Interpreted m line stamp (m, { isInstruction := true })
  | words (h : ¬ (instruction line).isEmpty) {r : Machine × List Emission}
    (hr : (m.recordAll (malformed line stamp)).execute (instruction line) stamp = r) :
    Interpreted m line stamp (r.1, { isInstruction := true, emissions := r.2 })

lemma interpreted (m : Machine) (line : List Char) (stamp : Stamp) :
    Interpreted m line stamp (m.interpret line stamp) := by
  rw [interpret]
  dsimp only
  split
  · next h => exact .blank h
  · split
    · next h => exact .comment h
    · split
      · next h => exact .wordless h
      · next h => exact .words h rfl

/-- The host may change the tools between two lines. -/
inductive Reachable (s : Settings) : Machine → Prop
  | start {tools : ToolTable} {style : SlicerStyle} {m : Machine} (h : ofTools s tools style = .ok m) :
    Reachable s m
  | interpret {m : Machine} (line : List Char) (stamp : Stamp) (h : Reachable s m) :
    Reachable s (m.interpret line stamp).1
  | equip {m : Machine} (tools : ToolTable) (h : Reachable s m) : Reachable s { m with tools }

end Machine

namespace Run

lemma machine_feed (r : Run) (line : List Char) (stamp : Stamp) :
    (r.feed line stamp).machine = (r.machine.interpret line stamp).1 := rfl

lemma store_feed (r : Run) (line : List Char) (stamp : Stamp) :
    (r.feed line stamp).store = r.store.draw stamp (r.machine.interpret line stamp).2 := rfl

def feedAll (r : Run) (lines : List (List Char × Stamp)) : Run :=
  lines.foldl (fun r line => r.feed line.1 line.2) r

end Run
end Toolpath
