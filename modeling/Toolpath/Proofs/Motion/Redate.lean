import Toolpath.Proofs.Segment.Redate

/-! Lines at other offsets. The offset of a line moves no machine, and all that the line draws bears
it. -/

namespace Toolpath
namespace Machine

variable (f : Nat → Nat)

def redate (r : Machine × List Emission) : Machine × List Emission :=
  (r.1, r.2.map (Emission.redate f))

variable (m : Machine) (i : Instruction) (mode : MotionMode) (target : Point) (stamp : Stamp)

lemma path_redate (depositing : Bool) (height : Float) (kind : MoveKind) (start : Point)
    (points : List Point) :
    m.path ⟨stamp.redate f, depositing, height, kind⟩ start points =
      (m.path ⟨stamp, depositing, height, kind⟩ start points).map (Segment.redate f) := by
  induction points generalizing start with
  | nil => rfl
  | cons p points ih => rw [path, path, ih]; rfl

lemma trackLayer_redate (z : Float) : redate f (m.trackLayer z) = m.trackLayer z := by
  rw [trackLayer, apply_ite (redate f)]
  rfl

lemma draw_redate (depositing : Bool) (height : Float) (kind : MoveKind) (start : Point)
    (points : List Point) (z : Float) :
    m.draw ⟨stamp.redate f, depositing, height, kind⟩ start points z =
      redate f (m.draw ⟨stamp, depositing, height, kind⟩ start points z) := by
  have hpath (m : Machine) :
      ((m.path ⟨stamp, depositing, height, kind⟩ start points).map Emission.segment).map
          (Emission.redate f) =
        (m.path ⟨stamp.redate f, depositing, height, kind⟩ start points).map Emission.segment := by
    rw [path_redate, List.map_map, List.map_map]
    rfl
  have hlayers : (m.trackLayer z).2.map (Emission.redate f) = (m.trackLayer z).2 :=
    congrArg Prod.snd (m.trackLayer_redate f z)
  unfold draw redate
  cases depositing with
  | false => simp only [hpath, List.map_append, Bool.false_eq_true, if_false, List.map_nil]
  | true => simp only [hpath, List.map_append, if_true, hlayers]

lemma straightMove_redate :
    m.straightMove i mode target (stamp.redate f) =
      redate f (m.straightMove i mode target stamp) := by
  unfold straightMove
  dsimp only
  split
  · rfl
  · split
    · exact draw_redate ..
    · split
      · exact draw_redate ..
      · rfl

lemma arcMove_redate :
    m.arcMove i mode target (stamp.redate f) = redate f (m.arcMove i mode target stamp) := by
  unfold arcMove
  dsimp only
  split
  · rfl
  · rfl
  · split
    · exact draw_redate ..
    · rfl

lemma move_redate (machineCoords : Bool) :
    m.move i mode machineCoords (stamp.redate f) =
      redate f (m.move i mode machineCoords stamp) := by
  cases mode with
  | rapid => exact straightMove_redate ..
  | linear => exact straightMove_redate ..
  | arcClockwise => exact arcMove_redate ..
  | arcCounter => exact arcMove_redate ..

lemma execute_redate : m.execute i (stamp.redate f) = redate f (m.execute i stamp) := by
  have hprepare : m.prepare i (stamp.redate f) = m.prepare i stamp := rfl
  unfold execute
  rw [hprepare]
  dsimp only
  split
  · rfl
  · split
    · rfl
    · split
      · exact move_redate ..
      · rfl

lemma interpret_redate (line : List Char) :
    m.interpret line (stamp.redate f) =
      ((m.interpret line stamp).1, (m.interpret line stamp).2.redate f) := by
  have hline : (stamp.redate f).line = stamp.line := rfl
  unfold interpret
  rw [hline]
  dsimp only
  split
  · rfl
  · split
    · rfl
    · split
      · rfl
      · rw [execute_redate]
        generalize execute _ _ stamp = r
        rfl

end Machine

namespace Run

variable (f : Nat → Nat)

def redate (r : Run) : Run := { r with store := r.store.redate f }

lemma feed_redate (r : Run) (line : List Char) (stamp : Stamp) :
    (r.redate f).feed line (stamp.redate f) = (r.feed line stamp).redate f := by
  rw [feed, feed, redate, Machine.interpret_redate]
  dsimp only
  rw [← Store.redate_draw]
  rfl

end Run
end Toolpath
