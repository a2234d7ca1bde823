import Toolpath.Proofs.Line.Problems

/-! Lines that overflow: those that take the tool along an arc with more points than there is room
for. A machine that has met one of them remembers it. -/

namespace Toolpath

namespace Arc

def overflows (a : Arc) (r : ArcResolution) : Bool :=
  (a.helix r).toOption.any fun h => Point.room < h.segments r.segmentLength

lemma expand_eq_ok_none_iff {a : Arc} {r : ArcResolution} :
    a.expand r = .ok none ↔ a.overflows r := by
  rw [expand, overflows]
  cases a.helix r with
  | error e => exact iff_of_false (by simp [Except.map]) (by simp [Except.toOption])
  | ok h =>
    have hsplit : (Except.ok h).map (fun h : Helix =>
        if Point.room < h.segments r.segmentLength then none
        else some (a.points h (h.segments r.segmentLength))) = .ok (ε := GeometryError Float) none ↔
        Point.room < h.segments r.segmentLength := by
      simp [Except.map]
    exact hsplit.trans decide_eq_true_iff.symm

end Arc

namespace Machine

variable (m : Machine) (i : Instruction) (stamp : Stamp)

def overflowsBy : Bool := ((m.prepare i stamp).arc? i).any (·.overflows m.resolution)

def overflowsAt (line : List Char) (stamp : Stamp) : Bool :=
  isNoted line && m.overflowsBy (instruction line) stamp

lemma unworded_overflowed : Unworded overflowed where
  codes _ _ _ _ _ _ _ := rfl
  tool _ _ := rfl
  color _ _ := rfl
  feedRate _ _ := rfl
  spindle _ _ := rfl
  diagnostics _ _ := rfl

lemma overflowed_setWorkplaceOffset : (m.setWorkplaceOffset i).overflowed = m.overflowed := by
  rw [setWorkplaceOffset]
  split <;> rfl

lemma overflowed_trackLayer (z : Float) : (m.trackLayer z).1.overflowed = m.overflowed := by
  rw [trackLayer]
  split <;> rfl

lemma overflowed_draw (k : Stroke) (start : Point) (points : List Point) (z : Float) :
    (m.draw k start points z).1.overflowed = m.overflowed := by
  unfold draw
  cases k.depositing with
  | true => exact overflowed_trackLayer m z
  | false => rfl

lemma overflowed_straightMove (mode : MotionMode) (target : Point) :
    (m.straightMove i mode target stamp).1.overflowed = m.overflowed := by
  rw [straightMove]
  split
  · rfl
  · split
    · exact overflowed_draw ..
    · split
      · exact overflowed_draw ..
      · rfl

lemma overflowed_arcMove (mode : MotionMode) (target : Point) :
    (m.arcMove i mode target stamp).1.overflowed = (m.overflowed ||
      Arc.overflows ⟨m.state.machine, target, m.state.plane, m.arcCenter i, mode = .arcClockwise⟩
        m.resolution) := by
  rw [arcMove]
  dsimp only
  split
  · next he =>
    have hfits := mt Arc.expand_eq_ok_none_iff.mpr (by rw [he]; simp)
    rw [Bool.eq_false_iff.mpr hfits, Bool.or_false]
    rfl
  · next hn =>
    rw [Arc.expand_eq_ok_none_iff.mp hn, Bool.or_true]
    rfl
  · next hp =>
    have hfits := mt Arc.expand_eq_ok_none_iff.mpr (by rw [hp]; simp)
    rw [Bool.eq_false_iff.mpr hfits, Bool.or_false]
    split
    · exact overflowed_draw ..
    · rfl

lemma overflowed_execute :
    (m.execute i stamp).1.overflowed = (m.overflowed || m.overflowsBy i stamp) := by
  have hcode (code : Nat) : (i.codes 'G').contains code = i.hasCode 'G' code := rfl
  have hresolution : (m.prepare i stamp).resolution = m.resolution :=
    (congrArg Rig.resolution (unworded_rig.prepare m i stamp) :)
  rw [overflowsBy, ← hresolution, ← unworded_overflowed.prepare m i stamp, execute, arc?]
  simp only [hcode]
  generalize m.prepare i stamp = ready
  cases hplace : i.hasCode 'G' 100 && i.has 'L' with
  | true => exact (overflowed_setWorkplaceOffset ..).trans (Bool.or_false _).symm
  | false =>
    cases hhome : i.hasCode 'G' 280 with
    | true => exact (Bool.or_false _).symm
    | false =>
      simp only [Bool.or_false, Bool.false_eq_true, if_false]
      cases ready.motion? i with
      | none => exact (Bool.or_false _).symm
      | some mode =>
        cases mode with
        | rapid => exact (overflowed_straightMove ..).trans (Bool.or_false _).symm
        | linear => exact (overflowed_straightMove ..).trans (Bool.or_false _).symm
        | arcClockwise => exact overflowed_arcMove ..
        | arcCounter => exact overflowed_arcMove ..

lemma overflowsBy_recordAll (faults : List Fault) :
    (m.recordAll faults).overflowsBy i stamp = m.overflowsBy i stamp := by
  have hk : ((m.recordAll faults).prepare i stamp).state.kinematics =
      (m.prepare i stamp).state.kinematics := by
    rw [kinematics_prepare, kinematics_prepare]
    rfl
  rw [overflowsBy, overflowsBy, arc?_congr hk]
  rfl

lemma overflowed_annotate (line : List Char) : (m.annotate line).overflowed = m.overflowed := by
  rw [annotate]
  dsimp only
  split <;> rfl

lemma overflowed_interpret (line : List Char) :
    (m.interpret line stamp).1.overflowed = (m.overflowed || m.overflowsAt line stamp) := by
  rw [overflowsAt]
  cases hnoted : isNoted line with
  | true =>
    rw [interpret_noted m hnoted, Bool.true_and]
    split
    · next hempty =>
      rw [instruction_of_isEmpty hempty]
      exact (Bool.or_false _).symm
    · dsimp only
      rw [overflowed_execute, overflowsBy_recordAll]
      rfl
  | false =>
    rw [Bool.false_and, Bool.or_false, interpret]
    dsimp only
    split
    · rfl
    · next hblank =>
      have hcomment : isCommentLine (Text.trim line) := by
        rw [isNoted, Bool.eq_false_iff.mpr hblank] at hnoted
        simpa using hnoted
      rw [if_pos hcomment]
      exact overflowed_annotate ..

end Machine
end Toolpath
