import Mathlib.Data.List.Basic
import Toolpath.Proofs.Motion.Step

/-! How a program moves the tool. The text alone decides it: settings choose how a machine starts,
and after that only what is drawn, in which color, and by which tool. -/

namespace Toolpath
namespace State

/-- The state without the tool, the color and the layers, which only drawing looks at. -/
def kinematics (s : State) : State :=
  { s with tool := 0, color := .white, layerHeight := 0.0, previousLayerHeight := 0.0 }

structure SameMotion (s t : State) : Prop where
  position : s.position = t.position
  machine : s.machine = t.machine
  absolute : s.absolute = t.absolute
  units : s.units = t.units
  workplace : s.workplace = t.workplace
  offsets : s.offsets = t.offsets
  plane : s.plane = t.plane
  feedRate : s.feedRate = t.feedRate
  spindleOn : s.spindleOn = t.spindleOn
  mode : s.mode = t.mode
  retracted : s.retracted = t.retracted

lemma SameMotion.of_kinematics {s t : State} (h : s.kinematics = t.kinematics) :
    s.SameMotion t where
  position := (congrArg State.position h :)
  machine := (congrArg State.machine h :)
  absolute := (congrArg State.absolute h :)
  units := (congrArg State.units h :)
  workplace := (congrArg State.workplace h :)
  offsets := (congrArg State.offsets h :)
  plane := (congrArg State.plane h :)
  feedRate := (congrArg State.feedRate h :)
  spindleOn := (congrArg State.spindleOn h :)
  mode := (congrArg State.mode h :)
  retracted := (congrArg State.retracted h :)

/-! Lines as far as they move the tool. -/

def spin (i : Instruction) (s : State) (code : Nat) : State :=
  match code with
  | 30 | 40 => if 0.0 < i.getD 'S' then { s with spindleOn := true } else s
  | 50 => { s with spindleOn := false }
  | _ => s

def enterFeed (s : State) (i : Instruction) : State :=
  match i.get? 'F' with
  | some rate => { s with feedRate := s.units.toMm rate }
  | none => s

def prepare (s : State) (i : Instruction) : State :=
  (i.codes 'M').foldl (spin i) ((i.codes 'G').foldl (applyCode (i.has 'L')) (s.enterFeed i))

def setOffset (s : State) (i : Instruction) : State :=
  match Machine.workplace? s.workplace (Machine.roundWord (i.getD 'P')) with
  | some w =>
    let relative := (i.get? 'L').map Machine.roundWord = some 20
    { s with offsets := s.offsets.set w (s.newOffset i relative (s.offsets.get w)) w.isLt }
  | none => s

def travel (s : State) (i : Instruction) (mode : MotionMode) : State :=
  let s := { s with mode }
  s.moveTo (s.target i ((i.codes 'G').contains 530))

def motion? (s : State) (i : Instruction) : Option MotionMode :=
  match ((i.codes 'G').filterMap MotionMode.ofCode?).getLast? with
  | some mode => some mode
  | none =>
    if (i.codes 'G').isEmpty && (i.codes 'M').isEmpty && i.hasAny (Axis.all.map Axis.letter) then
      some s.mode
    else none

def execute (s : State) (i : Instruction) : State :=
  let s := s.prepare i
  if (i.codes 'G').contains 100 && i.has 'L' then s.setOffset i
  else if (i.codes 'G').contains 280 then s.moveTo (s.homeTarget i)
  else
    match s.motion? i with
    | some mode => s.travel i mode
    | none => s

def follow (s : State) (line : List Char) : State :=
  let line := Text.trim line
  if line.isEmpty || isCommentLine line then s
  else
    let i := Instruction.tokenize (stripComments line)
    if i.isEmpty then s else s.execute i

lemma kinematics_applyCode (hasL : Bool) (s : State) (code : Nat) :
    s.kinematics.applyCode hasL code = (s.applyCode hasL code).kinematics := by
  unfold applyCode
  split
  · split <;> rfl
  all_goals try rfl
  split <;> rfl

lemma kinematics_foldl_applyCode (hasL : Bool) (s : State) (codes : List Nat) :
    (codes.foldl (applyCode hasL) s).kinematics = codes.foldl (applyCode hasL) s.kinematics :=
  (List.foldl_hom kinematics fun s code => kinematics_applyCode hasL s code).symm

end State

namespace Machine

variable (m : Machine) (i : Instruction)

@[simp] lemma kinematics_setTool (index : Nat) :
    (m.setTool index).state.kinematics = m.state.kinematics := by
  rw [setTool]
  split <;> rfl

lemma kinematics_setFeedRate (rate : Float) :
    (m.setFeedRate rate).state.kinematics = { m.state.kinematics with feedRate := rate } := by
  rw [setFeedRate]
  split <;> rfl

@[simp] lemma kinematics_selectTool (requested : Int) :
    (m.selectTool requested).state.kinematics = m.state.kinematics := by
  rw [selectTool, kinematics_setTool]
  split <;> rfl

@[simp] lemma kinematics_mixColors :
    (m.mixColors i).state.kinematics = m.state.kinematics := by
  rw [mixColors]
  split
  · rfl
  · split <;> rfl

lemma kinematics_applyM (code : Nat) :
    (m.applyM i code).state.kinematics = m.state.kinematics.spin i code := by
  unfold applyM
  split
  · unfold State.spin
    split <;> rfl
  · unfold State.spin
    split <;> rfl
  · rfl
  · exact kinematics_mixColors ..
  · exact kinematics_setTool ..
  · next h30 h40 h50 _ _ => exact (State.spin.eq_4 _ _ _ h30 h40 h50).symm

lemma kinematics_foldl_applyM (codes : List Nat) :
    (codes.foldl (applyM i) m).state.kinematics = codes.foldl (State.spin i) m.state.kinematics :=
  (List.foldl_hom (fun m : Machine => m.state.kinematics)
    fun m code => (m.kinematics_applyM i code).symm).symm

lemma kinematics_enterTool : (m.enterTool i).state.kinematics = m.state.kinematics := by
  rw [enterTool]
  split
  · split
    · exact kinematics_selectTool ..
    · rfl
  · rfl

lemma kinematics_enterModes (stamp : Stamp) :
    (m.enterModes i stamp).state.kinematics =
      (i.codes 'G').foldl (State.applyCode (i.has 'L')) m.state.kinematics :=
  State.kinematics_foldl_applyCode ..

lemma kinematics_enterFeed :
    (m.enterFeed i).state.kinematics = m.state.kinematics.enterFeed i := by
  rw [enterFeed, State.enterFeed]
  cases i.get? 'F' with
  | some rate => exact kinematics_setFeedRate ..
  | none => rfl

lemma kinematics_prepare (stamp : Stamp) :
    (m.prepare i stamp).state.kinematics = m.state.kinematics.prepare i := by
  rw [prepare_eq, kinematics_enterTool, kinematics_foldl_applyM, kinematics_enterModes,
    kinematics_enterFeed, State.prepare]

lemma kinematics_setWorkplaceOffset :
    (m.setWorkplaceOffset i).state.kinematics = m.state.kinematics.setOffset i := by
  have hw : m.state.kinematics.workplace = m.state.workplace := rfl
  rw [setWorkplaceOffset, State.setOffset, hw]
  cases workplace? m.state.workplace (roundWord (i.getD 'P')) with
  | some w => rfl
  | none => rfl

lemma kinematics_trackLayer (z : Float) :
    (m.trackLayer z).1.state.kinematics = m.state.kinematics := by
  unfold trackLayer
  split <;> rfl

lemma kinematics_draw (k : Stroke) (start : Point) (points : List Point) (z : Float) :
    (m.draw k start points z).1.state.kinematics = m.state.kinematics := by
  unfold draw
  cases k.depositing with
  | true => exact kinematics_trackLayer ..
  | false => rfl

lemma Moved.kinematics {mode : MotionMode} {target : Point} {stamp : Stamp}
    {r : Machine × List Emission} (h : Moved m mode target stamp r) :
    r.1.state.kinematics = m.state.kinematics.moveTo target := by
  cases h with
  | unseen => rfl
  | degenerate e => rfl
  | overflow => rfl
  | drawn depositing inner _ _ => rw [kinematics_draw]; rfl

lemma kinematics_execute (stamp : Stamp) :
    (m.execute i stamp).1.state.kinematics = m.state.kinematics.execute i := by
  have hp := m.kinematics_prepare i stamp
  rw [execute, State.execute]
  dsimp only
  rw [← hp]
  generalize m.prepare i stamp = m
  split
  · exact kinematics_setWorkplaceOffset ..
  · split
    · rfl
    · have hmotion : m.state.kinematics.motion? i = m.motion? i := rfl
      rw [hmotion]
      cases m.motion? i with
      | some mode => exact (moved ..).kinematics
      | none => rfl

lemma kinematics_annotate (line : List Char) :
    (m.annotate line).state.kinematics = m.state.kinematics := by
  rw [annotate]
  cases m.classifier.recognize line with
  | mk classifier recognized =>
    dsimp only
    split <;> rfl

lemma kinematics_interpret (line : List Char) (stamp : Stamp) :
    (m.interpret line stamp).1.state.kinematics = m.state.kinematics.follow line := by
  rw [interpret, State.follow]
  dsimp only
  generalize Text.trim line = line
  cases line.isEmpty with
  | true => rfl
  | false =>
    cases isCommentLine line with
    | true => exact kinematics_annotate ..
    | false =>
      generalize Instruction.tokenize (stripComments line) = i
      cases i.isEmpty with
      | true => rfl
      | false => exact kinematics_execute ..

lemma kinematics_ofTools {s : Settings} {tools : ToolTable} {style : SlicerStyle} {m : Machine}
    (h : ofTools s tools style = .ok m) :
    m.state.kinematics =
      (State.initial s.parser.absoluteByDefault .white (s.belt.map .ofSettings)).kinematics := by
  obtain ⟨resolution, rfl⟩ := exists_of_ofTools h
  rfl

end Machine

namespace Run

lemma kinematics_feedAll (r : Run) (lines : List (List Char × Stamp)) :
    (r.feedAll lines).machine.state.kinematics =
      (lines.map Prod.fst).foldl State.follow r.machine.state.kinematics := by
  induction lines generalizing r with
  | nil => rfl
  | cons line lines ih =>
    rw [List.map_cons, List.foldl_cons, ← Machine.kinematics_interpret r.machine line.1 line.2]
    exact ih (r.feed line.1 line.2)

theorem feedAll_sameMotion {s₁ s₂ : Settings} {tools₁ tools₂ : ToolTable}
    {style₁ style₂ : SlicerStyle} {m₁ m₂ : Machine}
    (h₁ : Machine.ofTools s₁ tools₁ style₁ = .ok m₁) (h₂ : Machine.ofTools s₂ tools₂ style₂ = .ok m₂)
    (habsolute : s₁.parser.absoluteByDefault = s₂.parser.absoluteByDefault)
    (hbelt : s₁.belt.map BeltGeometry.ofSettings = s₂.belt.map BeltGeometry.ofSettings)
    (store₁ store₂ : Store) (lines : List (List Char × Stamp)) :
    ((⟨m₁, store₁⟩ : Run).feedAll lines).machine.state.SameMotion
      ((⟨m₂, store₂⟩ : Run).feedAll lines).machine.state := by
  apply State.SameMotion.of_kinematics
  rw [kinematics_feedAll, kinematics_feedAll, Machine.kinematics_ofTools h₁,
    Machine.kinematics_ofTools h₂, habsolute, hbelt]

theorem feedAll_sameMotion_hidden_arc :
    let plain : Settings := {}
    let other : Settings := {
      parser := {
        arcSegmentLength := 0.25
        arcRadiusFixup := true
        workingMovesDeposit := true
        renderTravels := false
        minSegmentLength := 5.0
        perimeterOnly := true }
      color := { mode := .feed }
      tools := [] }
    let lines : List (List Char × Stamp) := [("G91 F600 T7".toList, ⟨1, 12⟩),
      (";TYPE:FILL".toList, ⟨2, 23⟩), ("G2 X10 I5 E1".toList, ⟨3, 36⟩), ("G1 Z1".toList, ⟨4, 42⟩)]
    ∃ m₁ m₂, Machine.ofSettings plain .generic = .ok m₁ ∧ Machine.ofSettings other .cura = .ok m₂ ∧
      ((⟨m₁, {}⟩ : Run).feedAll lines).machine.state.SameMotion
        ((⟨m₂, {}⟩ : Run).feedAll lines).machine.state := by
  intro plain other lines
  obtain ⟨m₁, h₁⟩ : ∃ m, Machine.ofSettings plain .generic = .ok m :=
    Machine.exists_ofTools_iff.mpr (by decide)
  obtain ⟨m₂, h₂⟩ : ∃ m, Machine.ofSettings other .cura = .ok m :=
    Machine.exists_ofTools_iff.mpr (by decide)
  exact ⟨m₁, m₂, h₁, h₂, feedAll_sameMotion h₁ h₂ rfl rfl {} {} lines⟩

end Run
end Toolpath
