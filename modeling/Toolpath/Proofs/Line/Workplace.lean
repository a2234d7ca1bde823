import Toolpath.Proofs.Line.Interpret
import Toolpath.Proofs.Motion.Indices
import Toolpath.Proofs.Motion.Still

/-! Lines that set a workplace. One entry of the table changes, on the axes that the line names, or
nothing but the list of problems. -/

namespace Toolpath

lemma Point.get_set (p : Point) (a b : Axis) (v : Float) :
    (p.set a v).get b = if b = a then v else p.get b := by
  cases a <;> cases b <;> rfl

namespace Diagnostics

lemma misconfigured_record (d : Diagnostics) (f : Fault) :
    (d.record f).misconfigured =
      d.misconfigured + if f matches .misconfigured _ then 1 else 0 := by
  unfold record
  cases f <;> dsimp only <;> split <;> rfl

lemma misconfigured_recordAll {faults : List Fault}
    (h : ∀ f ∈ faults, ¬ (f matches .misconfigured _)) (d : Diagnostics) :
    (d.recordAll faults).misconfigured = d.misconfigured :=
  List.foldlRecOn (motive := fun e : Diagnostics => e.misconfigured = d.misconfigured) faults _ rfl
    fun e he f hf => by simp [misconfigured_record, h f hf, he]

end Diagnostics

variable {i : Instruction}

namespace Instruction

structure OnlySetsWorkplace (i : Instruction) : Prop where
  code : i.codes 'G' = [100]
  slot : i.words.countP (·.letter == 'L') = 1
  letters : ∀ w ∈ i.words, w.letter ∈ ['G', 'L', 'P', 'X', 'Y', 'Z']

namespace OnlySetsWorkplace

variable (h : i.OnlySetsWorkplace)

include h

lemma setsWorkplace : i.SetsWorkplace where
  code := by simp [hasCode, h.code]
  slot := by
    have hpos : 0 < i.words.countP (·.letter == 'L') := h.slot ▸ Nat.one_pos
    simpa [has] using List.countP_pos_iff.mp hpos

lemma isEmpty_eq_false : i.isEmpty = false := by
  obtain ⟨w, hw, -⟩ := List.any_eq_true.mp h.setsWorkplace.slot
  exact List.isEmpty_eq_false_iff.mpr (List.ne_nil_of_mem hw)

end OnlySetsWorkplace
end Instruction

namespace State

variable {w : Fin workplaceCount}

lemma get_newOffset (s : State) (i : Instruction) (relative : Bool) (old : Point) (a : Axis) :
    (s.newOffset i relative old).get a =
      match i.get? a.letter with
      | some v => if relative then s.machine.get a - s.units.toMm v else s.units.toMm v
      | none => old.get a := by
  simp only [newOffset, Axis.all, List.foldl_cons, List.foldl_nil]
  cases a <;> dsimp only [Axis.letter] <;>
    cases i.get? 'X' <;> cases i.get? 'Y' <;> cases i.get? 'Z' <;> simp [Point.get_set]

/-- Slot 20 enters what makes the place of the tool read as the line says. -/
structure Entered (s : State) (i : Instruction) (w : Fin workplaceCount)
    (offsets : Vector Point workplaceCount) : Prop where
  others : ∀ other ≠ w, offsets.get other = s.offsets.get other
  unnamed : ∀ a : Axis, ¬ i.has a.letter → (offsets.get w).get a = (s.offsets.get w).get a
  named : ∀ (a : Axis) (v : Float), i.get? a.letter = some v → (offsets.get w).get a =
    if (i.get? 'L').map Machine.roundWord = some 20 then s.machine.get a - s.units.toMm v
    else s.units.toMm v

lemma entered_set (s : State) (i : Instruction) (w : Fin workplaceCount) :
    s.Entered i w (s.offsets.set w (s.newOffset i
      ((i.get? 'L').map Machine.roundWord = some 20) (s.offsets.get w)) w.isLt) := by
  have hself (p : Point) : (s.offsets.set w p w.isLt).get w = p := Vector.getElem_set_self w.isLt
  constructor
  case others =>
    intro other hother
    have hne : w.val ≠ other.val := fun h => hother (Fin.ext h.symm)
    exact Vector.getElem_set_ne w.isLt other.isLt hne
  case unnamed =>
    intro a ha
    have hnone : i.get? a.letter = none := Instruction.get?_eq_none.mpr ha
    simp [hself, get_newOffset, hnone]
  case named =>
    intro a v hv
    simp [hself, get_newOffset, hv]

end State

namespace Machine

variable {m : Machine} {stamp : Stamp} {line : List Char}

lemma prepare_workplace (m : Machine) (h : i.OnlySetsWorkplace) (stamp : Stamp) :
    m.prepare i stamp = m := by
  have hnot {letter : Char} (hletter : letter ∉ ['G', 'L', 'P', 'X', 'Y', 'Z']) : ¬ i.has letter :=
    Instruction.not_has h.letters hletter
  have hfeed : i.get? 'F' = none := Instruction.get?_eq_none.mpr (hnot (by decide))
  have htool : i.get? 'T' = none := Instruction.get?_eq_none.mpr (hnot (by decide))
  have hm : i.codes 'M' = [] := Instruction.codes_eq_nil.mpr (hnot (by decide))
  have hslot : i.has 'L' = true := h.setsWorkplace.slot
  have hknown : [100].filter (fun c => !State.isKnownCode c) = [] := by decide
  simp only [prepare, hfeed, htool, hm, h.code, hslot, hknown, List.map_nil, List.foldl_nil]
  rfl

lemma exists_workplace? (active : Fin workplaceCount) {p : Int} (hp : 0 ≤ p ∧ p ≤ 9) :
    ∃ w, workplace? active p = some w ∧ (w : Int) = if p = 0 then (active : Int) else p - 1 := by
  by_cases hzero : p = 0
  · exact ⟨active, if_pos hzero, (if_pos hzero).symm⟩
  · have hrange : 1 ≤ p ∧ p ≤ 9 := by omega
    refine ⟨_, (if_neg hzero).trans (dif_pos hrange), ?_⟩
    rw [if_neg hzero]
    dsimp only
    omega

lemma workplace?_eq_none {active : Fin workplaceCount} {p : Int} (hp : ¬ (0 ≤ p ∧ p ≤ 9)) :
    workplace? active p = none := by
  have hzero : ¬ p = 0 := by omega
  have hrange : ¬ (1 ≤ p ∧ p ≤ 9) := by omega
  exact (if_neg hzero).trans (dif_neg hrange)

section Setting

variable {p : Int} (hp : roundWord (i.getD 'P') = p)

include hp

lemma setWorkplaceOffset_outside {faults : List Fault} (h : ¬ (0 ≤ p ∧ p ≤ 9)) :
    (m.recordAll faults).setWorkplaceOffset i =
      { m with diagnostics :=
          (m.diagnostics.recordAll faults).record (.misconfigured (.noWorkplace p)) } := by
  simp only [setWorkplaceOffset, hp, workplace?_eq_none h]
  rfl

lemma exists_setWorkplaceOffset (faults : List Fault) (h : 0 ≤ p ∧ p ≤ 9) :
    ∃ (w : Fin workplaceCount) (offsets : Vector Point workplaceCount),
      (m.recordAll faults).setWorkplaceOffset i =
        { m with
          diagnostics := m.diagnostics.recordAll faults
          state := { m.state with offsets } } ∧
      (w : Int) = (if p = 0 then (m.state.workplace : Int) else p - 1) ∧
      m.state.Entered i w offsets := by
  obtain ⟨w, hw, hnumber⟩ := exists_workplace? m.state.workplace h
  refine ⟨w, _, ?_, hnumber, m.state.entered_set i w⟩
  simp only [setWorkplaceOffset, hp, state_recordAll, hw]
  rfl

end Setting

lemma interpret_workplace (m : Machine) (hline : '\n' ∉ line)
    (h : (instruction line).OnlySetsWorkplace) (stamp : Stamp) :
    m.interpret line stamp =
      ((m.recordAll (malformed line stamp)).setWorkplaceOffset (instruction line),
        { isInstruction := true }) := by
  have hworded : isWorded line := by rw [isWorded, h.isEmpty_eq_false]; rfl
  rw [interpret_noted m (isNoted_of_isWorded hline hworded), h.isEmpty_eq_false,
    execute_workplace _ h.setsWorkplace, prepare_workplace _ h]
  rfl

lemma misconfigured_malformed (d : Diagnostics) (line : List Char) (stamp : Stamp) :
    (d.recordAll (malformed line stamp)).misconfigured = d.misconfigured := by
  apply Diagnostics.misconfigured_recordAll
  intro f hf
  obtain ⟨w, -, rfl⟩ := List.mem_map.mp hf
  exact Bool.false_ne_true

end Machine

theorem Run.feed_workplace (r : Run) {line : List Char} (hline : '\n' ∉ line)
    (h : (Machine.instruction line).OnlySetsWorkplace) (stamp : Stamp) :
    let i := Machine.instruction line
    let p := Machine.roundWord (i.getD 'P')
    let m := r.machine
    let read := m.diagnostics.recordAll (Machine.malformed line stamp)
    let after := r.feed line stamp
    after.store.segments = r.store.segments ∧ after.store.layers = r.store.layers ∧
      read.misconfigured = m.diagnostics.misconfigured ∧
      (¬ (0 ≤ p ∧ p ≤ 9) →
        after.machine = { m with diagnostics := read.record (.misconfigured (.noWorkplace p)) } ∧
        after.machine.diagnostics.misconfigured = m.diagnostics.misconfigured + 1) ∧
      (0 ≤ p ∧ p ≤ 9 → ∃ (w : Fin workplaceCount) (offsets : Vector Point workplaceCount),
        after.machine = { m with diagnostics := read, state := { m.state with offsets } } ∧
        (w : Int) = (if p = 0 then (m.state.workplace : Int) else p - 1) ∧
        m.state.Entered i w offsets) := by
  intro i p m read after
  obtain ⟨-, -, -, -, hsegments, hlayers⟩ := r.feed_still (Or.inr h.setsWorkplace) stamp
  have hread : read.misconfigured = m.diagnostics.misconfigured :=
    Machine.misconfigured_malformed ..
  have hafter : after.machine =
      (m.recordAll (Machine.malformed line stamp)).setWorkplaceOffset i := by
    rw [machine_feed, Machine.interpret_workplace m hline h]
  refine ⟨hsegments, hlayers, hread, fun hp => ?_, fun hp => ?_⟩
  · have hmachine := hafter.trans (Machine.setWorkplaceOffset_outside rfl hp)
    refine ⟨hmachine, ?_⟩
    rw [hmachine, Diagnostics.misconfigured_record, hread]
    rfl
  · obtain ⟨w, offsets, hset, hentered⟩ := Machine.exists_setWorkplaceOffset
      (m := m) (i := i) rfl (Machine.malformed line stamp) hp
    exact ⟨w, offsets, hafter.trans hset, hentered⟩

theorem Run.feed_workplace_inches :
    let m : Machine := {
      parsing := {}
      coloring := {}
      resolution := {}
      tools := Settings.toolTable {}
      classifier := { style := .generic }
      state := .initial true ((Settings.toolTable {}).color 0) none }
    let r := (⟨m, {}⟩ : Run).feed "G56 G20".toList ⟨1, 8⟩
    let outside := "G10 L2 P9.5 X1".toList
    let inside := "X1 L20 G10 P Y..".toList
    m.Reachable {} ∧ r.machine.state.workplace = 2 ∧
      '\n' ∉ outside ∧ (Machine.instruction outside).OnlySetsWorkplace ∧
      '\n' ∉ inside ∧ (Machine.instruction inside).OnlySetsWorkplace ∧
      (r.feed outside ⟨2, 23⟩).machine = { r.machine with
        diagnostics := r.machine.diagnostics.record (.misconfigured (.noWorkplace 10)) } ∧
      ∃ offsets : Vector Point workplaceCount, (r.feed inside ⟨2, 25⟩).machine = { r.machine with
          diagnostics := r.machine.diagnostics.record (.recoverable 2 (.malformedNumber "Y.."))
          state := { r.machine.state with offsets } } ∧
        (offsets.get 2).x = -25.4 ∧ (offsets.get 2).z = 0.0 ∧ offsets.get 3 = .zero := by
  intro m r outside inside
  have hm : Machine.ofTools {} (Settings.toolTable {}) .generic = .ok m := by rfl
  have hworkplace : r.machine.state.workplace = 2 := by decide +kernel
  have houtside : (Machine.instruction outside).OnlySetsWorkplace :=
    ⟨by decide +kernel, by decide +kernel, by decide +kernel⟩
  have hinside : (Machine.instruction inside).OnlySetsWorkplace :=
    ⟨by decide +kernel, by decide +kernel, by decide +kernel⟩
  have hp : Machine.roundWord ((Machine.instruction outside).getD 'P') = 10 := by decide +kernel
  have hq : Machine.roundWord ((Machine.instruction inside).getD 'P') = 0 := by decide +kernel
  have hx : (Machine.instruction inside).get? 'X' = some 1.0 := by decide +kernel
  have hz : ¬ (Machine.instruction inside).has 'Z' := by decide +kernel
  have hslot : ((Machine.instruction inside).get? 'L').map Machine.roundWord = some 20 := by
    decide +kernel
  have hread : Machine.malformed outside ⟨2, 23⟩ = [] := by decide +kernel
  have hread' : Machine.malformed inside ⟨2, 25⟩ =
      [.recoverable 2 (.malformedNumber "Y..")] := by decide +kernel
  have hinch : r.machine.state.machine.x - r.machine.state.units.toMm 1.0 = -25.4 := by
    decide +kernel
  have hold : (r.machine.state.offsets.get 2).z = 0.0 := by decide +kernel
  have hothers : r.machine.state.offsets.get 3 = .zero := by decide +kernel
  obtain ⟨-, -, -, hten, -⟩ := r.feed_workplace (by decide) houtside ⟨2, 23⟩
  obtain ⟨-, -, -, -, hzero⟩ := r.feed_workplace (by decide) hinside ⟨2, 25⟩
  rw [hp, hread, Diagnostics.recordAll, List.foldl_nil] at hten
  rw [hq, hread', hworkplace, Diagnostics.recordAll, List.foldl_cons, List.foldl_nil] at hzero
  obtain ⟨w, offsets, hmachine, hw, hentered⟩ := hzero (by decide)
  obtain rfl : w = 2 := Fin.ext (Int.ofNat_inj.mp hw)
  have hnamed := hentered.named .x 1.0 hx
  have hunnamed := hentered.unnamed .z hz
  rw [if_pos hslot] at hnamed
  refine ⟨.start hm, hworkplace, by decide, houtside, by decide, hinside, (hten (by decide)).1,
    offsets, hmachine, hnamed.trans hinch, hunnamed.trans hold, ?_⟩
  rw [hentered.others 3 (by decide), hothers]

end Toolpath
