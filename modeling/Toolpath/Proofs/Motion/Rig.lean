import Mathlib.Data.List.Basic
import Toolpath.Proofs.Motion.Frame

/-! What the words of a line leave alone: how the machine is set up, and the feature that it is on. -/

namespace Toolpath
namespace Machine

structure Rig where
  parsing : Settings.Parsing
  coloring : Settings.Coloring
  resolution : ArcResolution
  tools : ToolTable
  classifier : Classifier

def rig (m : Machine) : Rig := ⟨m.parsing, m.coloring, m.resolution, m.tools, m.classifier⟩

variable (m : Machine) (i : Instruction)

lemma unworded_rig : Unworded rig where
  codes _ _ _ _ _ _ _ := rfl
  tool _ _ := rfl
  color _ _ := rfl
  feedRate _ _ := rfl
  spindle _ _ := rfl
  diagnostics _ _ := rfl

lemma rig_setWorkplaceOffset : (m.setWorkplaceOffset i).rig = m.rig := by
  rw [setWorkplaceOffset]
  split <;> rfl

lemma rig_trackLayer (z : Float) : (m.trackLayer z).1.rig = m.rig := by
  rw [trackLayer]
  split <;> rfl

lemma rig_draw (k : Stroke) (start : Point) (points : List Point) (z : Float) :
    (m.draw k start points z).1.rig = m.rig := by
  unfold draw
  cases k.depositing with
  | true => exact rig_trackLayer m z
  | false => rfl

lemma Moved.rig_eq {mode : MotionMode} {target : Point} {stamp : Stamp}
    {r : Machine × List Emission} (h : Moved m mode target stamp r) : r.1.rig = m.rig := by
  cases h with
  | unseen => rfl
  | degenerate e => rfl
  | overflow => rfl
  | drawn depositing inner _ _ => exact rig_draw ..

lemma Executed.rig_eq {stamp : Stamp} {r : Machine × List Emission} (h : Executed m i stamp r) :
    r.1.rig = m.rig := by
  cases h with
  | offset => exact rig_setWorkplaceOffset m i
  | home => rfl
  | move mode machineCoords => exact (moved ..).rig_eq
  | idle => rfl

lemma rig_execute (stamp : Stamp) : (m.execute i stamp).1.rig = m.rig :=
  (executed m i stamp).rig_eq.trans (unworded_rig.prepare m i stamp)

lemma Interpreted.rig_eq {line : List Char} {stamp : Stamp} {r : Machine × Drawing}
    (h : Interpreted m line stamp r) : r.1.rig = { m.rig with classifier := r.1.classifier } := by
  cases h with
  | blank _ => rfl
  | wordless _ => rfl
  | comment _ =>
    unfold annotate
    dsimp only
    split <;> rfl
  | @words _ r hr =>
    have hrig : r.1.rig = m.rig := by
      rw [← hr, rig_execute, unworded_rig.recordAll]
    exact congrArg (fun rig : Rig => { rig with classifier := r.1.classifier }) hrig

section Line

variable (line : List Char) (stamp : Stamp)

lemma parsing_interpret : (m.interpret line stamp).1.parsing = m.parsing :=
  (congrArg Rig.parsing (m.interpreted line stamp).rig_eq :)

lemma coloring_interpret : (m.interpret line stamp).1.coloring = m.coloring :=
  (congrArg Rig.coloring (m.interpreted line stamp).rig_eq :)

lemma tools_interpret : (m.interpret line stamp).1.tools = m.tools :=
  (congrArg Rig.tools (m.interpreted line stamp).rig_eq :)

end Line

lemma Reachable.parsing_eq {s : Settings} {m : Machine} (h : m.Reachable s) :
    m.parsing = s.parser := by
  induction h with
  | start h =>
    obtain ⟨resolution, rfl⟩ := exists_of_ofTools h
    rfl
  | interpret line stamp _ ih => rw [parsing_interpret, ih]
  | equip tools _ ih => exact ih

/-! Which parts of the settings the words of a line look at before the tool moves. -/

def withParsing (m : Machine) (p : Settings.Parsing) : Machine := { m with parsing := p }

variable (p : Settings.Parsing)

lemma withParsing_setTool (index : Nat) :
    (m.withParsing p).setTool index = (m.setTool index).withParsing p := by
  rw [setTool, setTool, apply_ite (withParsing · p)]
  rfl

lemma withParsing_setFeedRate (rate : Float) :
    (m.withParsing p).setFeedRate rate = (m.setFeedRate rate).withParsing p := by
  rw [setFeedRate, setFeedRate, apply_ite (withParsing · p)]
  rfl

lemma withParsing_selectTool (requested : Int) :
    (m.withParsing p).selectTool requested = (m.selectTool requested).withParsing p := by
  rw [selectTool, selectTool, ← withParsing_setTool, apply_ite (withParsing · p)]
  rfl

lemma withParsing_mixColors : (m.withParsing p).mixColors i = (m.mixColors i).withParsing p := by
  rw [mixColors, mixColors, apply_ite (withParsing · p)]
  congr 1
  split <;> rfl

lemma withParsing_applyM (code : Nat) :
    (m.withParsing p).applyM i code = (m.applyM i code).withParsing p := by
  unfold applyM
  split
  · rw [apply_ite (withParsing · p)]
    rfl
  · rw [apply_ite (withParsing · p)]
    rfl
  · rfl
  · exact withParsing_mixColors ..
  · exact withParsing_setTool ..
  · rfl

lemma withParsing_foldl_applyM (codes : List Nat) :
    codes.foldl (applyM i) (m.withParsing p) = (codes.foldl (applyM i) m).withParsing p :=
  List.foldl_hom (withParsing · p) fun m code => withParsing_applyM m i p code

lemma withParsing_enterFeed :
    (m.withParsing p).enterFeed i = (m.enterFeed i).withParsing p := by
  unfold enterFeed
  split
  · exact withParsing_setFeedRate ..
  · rfl

lemma withParsing_enterTool :
    (m.withParsing p).enterTool i = (m.enterTool i).withParsing p := by
  unfold enterTool
  split
  · rw [apply_ite (withParsing · p), withParsing_selectTool]
  · rfl

lemma withParsing_prepare (stamp : Stamp) :
    (m.withParsing p).prepare i stamp = (m.prepare i stamp).withParsing p := by
  rw [prepare_eq, prepare_eq, withParsing_enterFeed, ← withParsing_enterTool,
    ← withParsing_foldl_applyM]
  rfl

lemma withParsing_setWorkplaceOffset :
    (m.withParsing p).setWorkplaceOffset i = (m.setWorkplaceOffset i).withParsing p := by
  have hw : (m.withParsing p).state = m.state := rfl
  unfold setWorkplaceOffset
  dsimp only
  rw [hw]
  split <;> rfl

lemma withParsing_annotate (line : List Char) :
    (m.withParsing p).annotate line = (m.annotate line).withParsing p := by
  unfold annotate
  dsimp only
  rw [apply_ite (withParsing · p)]
  rfl

end Machine
end Toolpath
