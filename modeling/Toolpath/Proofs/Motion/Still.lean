import Toolpath.Proofs.Motion.Path

/-! Lines that leave the tool where it is. Moves and homing displace it, and nothing else that a
line holds. -/

namespace Toolpath

variable {i : Instruction}

namespace Instruction

lemma codes_eq_nil {letter : Char} : i.codes letter = [] ↔ ¬ i.has letter := by
  simp [codes, has]

lemma get?_eq_none {letter : Char} : i.get? letter = none ↔ ¬ i.has letter := by
  simp [get?, has]

lemma not_has {letter : Char} {letters : List Char} (h : ∀ w ∈ i.words, w.letter ∈ letters)
    (hletter : letter ∉ letters) : ¬ i.has letter := by
  simp only [has, List.any_eq_true, beq_iff_eq, not_exists, not_and]
  rintro w hw rfl
  exact hletter (h w hw)

lemma hasAny_axes : i.hasAny (Axis.all.map Axis.letter) ↔ i.has 'X' ∨ i.has 'Y' ∨ i.has 'Z' := by
  simp [hasAny, has, Axis.all, Axis.letter, and_or_left, exists_or]

/-- Axes without a code would move the tool in the mode that it is in. -/
structure Motionless (i : Instruction) : Prop where
  codes : ∀ code ∈ i.codes 'G', code ∉ [0, 10, 20, 30, 280]
  modal : i.has 'G' ∨ i.has 'M' ∨ ¬ (i.has 'X' ∨ i.has 'Y' ∨ i.has 'Z')

structure SetsWorkplace (i : Instruction) : Prop where
  code : i.hasCode 'G' 100
  slot : i.has 'L'

end Instruction

namespace Machine

variable {m : Machine} {stamp : Stamp}

lemma state_recordAll (m : Machine) (faults : List Fault) :
    (m.recordAll faults).state = m.state := rfl

lemma stance_prepare (m : Machine) (i : Instruction) (stamp : Stamp) :
    (m.prepare i stamp).state.stance = m.state.stance := by
  have hs := State.stance_prepare m.state.kinematics i
  rw [← m.kinematics_prepare i stamp] at hs
  exact hs

lemma stance_setWorkplaceOffset (m : Machine) (i : Instruction) :
    (m.setWorkplaceOffset i).state.stance = m.state.stance := by
  unfold setWorkplaceOffset
  dsimp only
  split <;> rfl

lemma motion?_eq_none (m : Machine) (h : i.Motionless) : m.motion? i = none := by
  have hcodes : (i.codes 'G').filterMap MotionMode.ofCode? = [] := by
    apply List.filterMap_eq_nil_iff.mpr
    intro code hcode
    have hother := h.codes code hcode
    unfold MotionMode.ofCode?
    split <;> simp_all
  have hmodal : ¬ ((i.codes 'G').isEmpty && (i.codes 'M').isEmpty &&
      i.hasAny (Axis.all.map Axis.letter)) := by
    simp only [Bool.and_eq_true, List.isEmpty_iff, Instruction.codes_eq_nil,
      Instruction.hasAny_axes]
    have := h.modal
    tauto
  simp only [motion?, hcodes, List.getLast?_nil, if_neg hmodal]

lemma execute_workplace (m : Machine) (h : i.SetsWorkplace) (stamp : Stamp) :
    m.execute i stamp = ((m.prepare i stamp).setWorkplaceOffset i, []) := by
  have hcode : (i.codes 'G').contains 100 := h.code
  simp only [execute, hcode, h.slot, Bool.and_self, if_true]

lemma execute_motionless (m : Machine) (h : i.Motionless) (hnot : ¬ i.SetsWorkplace)
    (stamp : Stamp) : m.execute i stamp = (m.prepare i stamp, []) := by
  have hworkplace : ¬ ((i.codes 'G').contains 100 && i.has 'L') := fun hboth =>
    hnot ⟨(Bool.and_eq_true_iff.mp hboth).1, (Bool.and_eq_true_iff.mp hboth).2⟩
  have hhome : ¬ (i.codes 'G').contains 280 := fun hhome =>
    h.codes 280 (List.contains_iff_mem.mp hhome) (by decide)
  simp only [execute, if_neg hworkplace, if_neg hhome, motion?_eq_none _ h]

lemma execute_still (m : Machine) (h : i.Motionless ∨ i.SetsWorkplace) (stamp : Stamp) :
    (m.execute i stamp).1.state.stance = m.state.stance ∧ (m.execute i stamp).2 = [] := by
  by_cases hworkplace : i.SetsWorkplace
  · rw [execute_workplace m hworkplace]
    exact ⟨(stance_setWorkplaceOffset ..).trans (stance_prepare ..), rfl⟩
  · rw [execute_motionless m (h.resolve_right hworkplace) hworkplace]
    exact ⟨stance_prepare .., rfl⟩

lemma stance_annotate (m : Machine) (line : List Char) :
    (m.annotate line).state.stance = m.state.stance := by
  have hk := m.kinematics_annotate line
  exact (congrArg State.stance hk :)

lemma Interpreted.still {line : List Char} {r : Machine × Drawing} (hr : Interpreted m line stamp r)
    (h : (instruction line).Motionless ∨ (instruction line).SetsWorkplace) :
    r.1.state.stance = m.state.stance ∧ r.2.emissions = [] := by
  cases hr with
  | blank _ => exact ⟨rfl, rfl⟩
  | comment _ => exact ⟨stance_annotate .., rfl⟩
  | wordless _ => exact ⟨rfl, rfl⟩
  | words _ hr =>
    have hstill := execute_still (m.recordAll (malformed line stamp)) h stamp
    rw [hr, state_recordAll] at hstill
    exact hstill

end Machine

theorem Run.feed_still (r : Run) {line : List Char}
    (h : (Machine.instruction line).Motionless ∨ (Machine.instruction line).SetsWorkplace)
    (stamp : Stamp) :
    let after := r.feed line stamp
    after.machine.state.position = r.machine.state.position ∧
      after.machine.state.machine = r.machine.state.machine ∧
      after.machine.state.mode = r.machine.state.mode ∧
      (r.machine.interpret line stamp).2.emissions = [] ∧
      after.store.segments = r.store.segments ∧ after.store.layers = r.store.layers := by
  intro after
  obtain ⟨hstance, hnothing⟩ := (r.machine.interpreted line stamp).still h
  obtain ⟨hposition, hmachine, hmode, -⟩ := State.Stance.mk.inj hstance
  have hstore : after.store.segments = r.store.segments ∧ after.store.layers = r.store.layers := by
    simp only [after, store_feed, Store.draw, hnothing, List.foldl_nil]
    split <;> exact ⟨rfl, rfl⟩
  exact ⟨hposition, hmachine, hmode, hnothing, hstore⟩

theorem Run.feed_still_after_move :
    let m : Machine := {
      parsing := {}
      coloring := {}
      resolution := {}
      tools := Settings.toolTable {}
      classifier := { style := .generic }
      state := .initial true ((Settings.toolTable {}).color 0) none }
    let r := (⟨m, {}⟩ : Run).feed "G1 X3 Y4 E1".toList ⟨1, 12⟩
    let reset := "G92 X0 Y9 G91 M3 S1 F600".toList
    let setting := "G10 L2 P2 X1 G0 Y7 G28 T1".toList
    let after := (r.feed reset ⟨2, 37⟩).feed setting ⟨3, 63⟩
    m.Reachable {} ∧ (Machine.instruction reset).Motionless ∧
      (Machine.instruction setting).SetsWorkplace ∧
      after.machine.state.position.x = 3.0 ∧ after.machine.state.mode = .linear ∧
      after.machine.state.spindleOn ∧ after.store.size = 1 := by
  intro m r reset setting after
  have hm : Machine.ofTools {} (Settings.toolTable {}) .generic = .ok m := by rfl
  have hposition : r.machine.state.position.x = 3.0 := by decide +kernel
  have hmode : r.machine.state.mode = .linear := by decide +kernel
  have hsize : r.store.segments.size = 1 := by decide +kernel
  have hspindle : after.machine.state.spindleOn := by decide +kernel
  have hreset : (Machine.instruction reset).Motionless := ⟨by decide +kernel, by decide +kernel⟩
  have hsetting : (Machine.instruction setting).SetsWorkplace :=
    ⟨by decide +kernel, by decide +kernel⟩
  obtain ⟨hposition₁, -, hmode₁, -, hsegments₁, -⟩ := r.feed_still (Or.inl hreset) ⟨2, 37⟩
  obtain ⟨hposition₂, -, hmode₂, -, hsegments₂, -⟩ :=
    (r.feed reset ⟨2, 37⟩).feed_still (Or.inr hsetting) ⟨3, 63⟩
  refine ⟨.start hm, hreset, hsetting, ?_, ?_, hspindle, ?_⟩
  · rw [hposition₂, hposition₁, hposition]
  · rw [hmode₂, hmode₁, hmode]
  · rw [Store.size, hsegments₂, hsegments₁, hsize]

end Toolpath
