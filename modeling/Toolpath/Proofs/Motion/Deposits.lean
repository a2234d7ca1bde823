import Toolpath.Proofs.Motion.Path
import Toolpath.Proofs.Motion.Rig

/-! Which moves put material down. Straight moves and arcs decide it in different words, and by one
rule. -/

namespace Toolpath
namespace Instruction

def Extrudes (i : Instruction) : Prop := ∃ e, i.get? 'E' = some e ∧ 0.0 < e

lemma extrudes_iff (i : Instruction) : i.Extrudes ↔ 0.0 < i.getD 'E' := by
  unfold Extrudes getD
  cases i.get? 'E' with
  | none =>
    have hzero : ¬ (0.0 : Float) < 0.0 := by decide
    simp [hzero]
  | some e => simp

def spin (i : Instruction) (on : Bool) (code : Nat) : Bool :=
  match code with
  | 30 | 40 => 0.0 < i.getD 'S' || on
  | 50 => false
  | _ => on

def spins (i : Instruction) (on : Bool) : Bool := (i.codes 'M').foldl i.spin on

end Instruction

namespace State

lemma uncoded_spindleOn : Uncoded spindleOn := fun _ _ _ _ _ _ => rfl

lemma spindleOn_spin (i : Instruction) (s : State) (code : Nat) :
    (s.spin i code).spindleOn = i.spin s.spindleOn code := by
  unfold spin
  split
  · rw [Instruction.spin]
    split <;> simp_all
  · rw [Instruction.spin]
    split <;> simp_all
  · rfl
  · next h30 h40 h50 => exact (Instruction.spin.eq_4 _ _ _ h30 h40 h50).symm

lemma spindleOn_prepare (s : State) (i : Instruction) :
    (s.prepare i).spindleOn = i.spins s.spindleOn := by
  have hfeed : (s.enterFeed i).spindleOn = s.spindleOn := by
    rw [enterFeed]
    split <;> rfl
  have hcodes : ((i.codes 'G').foldl (applyCode (i.has 'L')) (s.enterFeed i)).spindleOn =
      s.spindleOn :=
    (uncoded_spindleOn.foldl_applyCode _ _ _).trans hfeed
  rw [prepare, Instruction.spins, ← hcodes]
  exact (List.foldl_hom spindleOn fun t code => (spindleOn_spin i t code).symm).symm

end State

namespace Machine

def Deposits (m : Machine) (i : Instruction) (kind : MoveKind) : Prop :=
  i.Extrudes ∨ kind ≠ .rapid ∧ (m.parsing.workingMovesDeposit ∨ m.state.spindleOn)

def Obeys (m : Machine) (i : Instruction) (es : List Emission) : Prop :=
  ∀ s ∈ es.filterMap Emission.segment?, s.depositing ↔ m.Deposits i s.kind

variable (m : Machine) (i : Instruction) (mode : MotionMode) (target : Point) (stamp : Stamp)

lemma deposits_rapid : m.Deposits i .rapid ↔ 0.0 < i.getD 'E' := by
  simp [Deposits, i.extrudes_iff]

lemma deposits_working {kind : MoveKind} (h : kind ≠ .rapid) :
    m.Deposits i kind ↔
      0.0 < i.getD 'E' ∨ m.parsing.workingMovesDeposit ∨ m.state.spindleOn := by
  simp [Deposits, i.extrudes_iff, h]

lemma obeys_nil : m.Obeys i [] := nofun

lemma obeys_draw {k : Stroke} (hk : k.depositing ↔ m.Deposits i k.kind) (m' : Machine)
    (start : Point) (points : List Point) (z : Float) :
    m.Obeys i (m'.draw k start points z).2 := by
  intro s hs
  obtain ⟨p, q, rfl⟩ := exists_of_mem_draw hs
  exact hk

lemma obeys_straightMove_rapid : m.Obeys i (m.straightMove i .rapid target stamp).2 := by
  have hworking : MotionMode.rapid.isWorking = false := rfl
  have hmode : MotionMode.rapid ≠ .linear := nofun
  have hrule := m.deposits_rapid i
  unfold straightMove
  simp only [hworking, hmode, decide_false, Bool.false_and, Bool.or_false, Bool.false_or]
  split
  · exact m.obeys_nil i
  · split
    · next hdeposit =>
      have hextrudes : 0.0 < i.getD 'E' := of_decide_eq_true (Bool.and_eq_true_iff.mp hdeposit).1
      apply obeys_draw
      exact iff_of_true rfl (hrule.mpr hextrudes)
    · split
      · next htravel =>
        have hrest : ¬ 0.0 < i.getD 'E' := by simpa using (Bool.and_eq_true_iff.mp htravel).2
        apply obeys_draw
        exact iff_of_false Bool.false_ne_true (mt hrule.mp hrest)
      · exact m.obeys_nil i

lemma obeys_straightMove_linear : m.Obeys i (m.straightMove i .linear target stamp).2 := by
  have hworking : MotionMode.linear.isWorking = true := rfl
  have hrule := m.deposits_working i (show MotionMode.linear.kind ≠ .rapid from nofun)
  unfold straightMove
  simp only [hworking, decide_true, Bool.true_and]
  split
  · exact m.obeys_nil i
  · split
    · next hdeposit =>
      have hcause : 0.0 < i.getD 'E' ∨ m.parsing.workingMovesDeposit ∨ m.state.spindleOn := by
        simp only [Bool.or_eq_true, Bool.and_eq_true, decide_eq_true_eq] at hdeposit
        tauto
      apply obeys_draw
      exact iff_of_true rfl (hrule.mpr hcause)
    · split
      · next hkeep htravel =>
        have hrest : ¬ (0.0 < i.getD 'E' ∨ m.parsing.workingMovesDeposit ∨ m.state.spindleOn) := by
          simp only [Bool.or_eq_true, Bool.and_eq_true, decide_eq_true_eq, Bool.not_eq_true',
            Bool.or_eq_false_iff, decide_eq_false_iff_not] at hkeep htravel
          simp only [Bool.eq_false_iff] at htravel
          tauto
        apply obeys_draw
        exact iff_of_false Bool.false_ne_true (mt hrule.mp hrest)
      · exact m.obeys_nil i

lemma obeys_arcMove (hmode : mode.kind ≠ .rapid) :
    m.Obeys i (m.arcMove i mode target stamp).2 := by
  have hrule := m.deposits_working i hmode
  unfold arcMove
  dsimp only
  split
  · exact m.obeys_nil i
  · exact m.obeys_nil i
  · split
    · apply obeys_draw
      rw [hrule]
      simp only [Bool.or_eq_true, decide_eq_true_eq, or_assoc]
    · exact m.obeys_nil i

lemma obeys_move (machineCoords : Bool) :
    m.Obeys i (m.move i mode machineCoords stamp).2 := by
  cases mode with
  | rapid => exact m.obeys_straightMove_rapid i _ stamp
  | linear => exact m.obeys_straightMove_linear i _ stamp
  | arcClockwise => exact m.obeys_arcMove i _ _ stamp nofun
  | arcCounter => exact m.obeys_arcMove i _ _ stamp nofun

lemma Executed.obeys {m : Machine} {i : Instruction} {stamp : Stamp} {r : Machine × List Emission}
    (h : Executed m i stamp r) : m.Obeys i r.2 := by
  cases h with
  | offset => exact m.obeys_nil i
  | home => exact m.obeys_nil i
  | move mode machineCoords =>
    exact obeys_move { m with state := { m.state with mode } } i mode stamp machineCoords
  | idle => exact m.obeys_nil i

lemma deposits_prepare (kind : MoveKind) :
    (m.prepare i stamp).Deposits i kind ↔
      i.Extrudes ∨
        kind ≠ .rapid ∧ (m.parsing.workingMovesDeposit ∨ i.spins m.state.spindleOn) := by
  have hparsing : (m.prepare i stamp).parsing = m.parsing :=
    congrArg Rig.parsing (unworded_rig.prepare m i stamp)
  have hspindle : (m.prepare i stamp).state.spindleOn = i.spins m.state.spindleOn :=
    (congrArg State.spindleOn (m.kinematics_prepare i stamp)).trans
      (State.spindleOn_prepare m.state.kinematics i)
  rw [Deposits, hparsing, hspindle]

lemma Interpreted.depositing_iff {line : List Char} {r : Machine × Drawing}
    (h : Interpreted m line stamp r) {s : Segment} (hs : s ∈ r.2.segments) :
    s.depositing ↔
      (instruction line).Extrudes ∨ s.kind ≠ .rapid ∧
        (m.parsing.workingMovesDeposit ∨ (instruction line).spins m.state.spindleOn) := by
  cases h with
  | blank _ => cases hs
  | comment _ => cases hs
  | wordless _ => cases hs
  | words _ hr =>
    have hexecuted := (m.recordAll (malformed line stamp)).executed (instruction line) stamp
    rw [hr] at hexecuted
    rw [hexecuted.obeys s hs, deposits_prepare]
    rfl

theorem interpret_depositing_iff {settings : Settings} {m : Machine} (h : m.Reachable settings)
    {line : List Char} {stamp : Stamp} {s : Segment} (hs : s ∈ (m.interpret line stamp).2.segments) :
    let i := instruction line
    let cuts := s.kind ≠ .rapid ∧ i.spins m.state.spindleOn
    (s.depositing ↔
      i.Extrudes ∨
        s.kind ≠ .rapid ∧ (settings.parser.workingMovesDeposit ∨ i.spins m.state.spindleOn)) ∧
      (s.isTravel → ¬ i.Extrudes ∧ ¬ cuts) := by
  intro i cuts
  have hrule := (m.interpreted line stamp).depositing_iff m stamp hs
  rw [h.parsing_eq] at hrule
  refine ⟨hrule, fun htravel => ?_⟩
  have hnone : ¬ s.depositing := by simpa [Segment.isTravel] using htravel
  rw [hrule, not_or] at hnone
  exact ⟨hnone.1, fun hcuts => hnone.2 ⟨hcuts.1, Or.inr hcuts.2⟩⟩

theorem interpret_depositing_iff_spindle :
    let m : Machine := {
      parsing := {}
      coloring := {}
      resolution := {}
      tools := Settings.toolTable {}
      classifier := { style := .generic }
      state := .initial true ((Settings.toolTable {}).color 0) none }
    let line := "G1 X2 M3 S900".toList
    ∃ s, m.Reachable {} ∧ s ∈ (m.interpret line ⟨1, 14⟩).2.segments ∧ s.depositing ∧
      (s.depositing ↔
        (instruction line).Extrudes ∨
          s.kind ≠ .rapid ∧
            (({} : Settings).parser.workingMovesDeposit ∨
              (instruction line).spins m.state.spindleOn)) := by
  intro m line
  have hm : ofTools {} (Settings.toolTable {}) .generic = .ok m := by rfl
  have hr : m.Reachable {} := .start hm
  have hall : (m.interpret line ⟨1, 14⟩).2.segments.map Segment.depositing = [true] := by
    decide +kernel
  obtain ⟨s, hs, hdeposit⟩ : ∃ s ∈ (m.interpret line ⟨1, 14⟩).2.segments, s.depositing := by
    have htrue : true ∈ (m.interpret line ⟨1, 14⟩).2.segments.map Segment.depositing := by
      rw [hall]
      exact List.mem_singleton_self _
    exact List.mem_map.mp htrue
  exact ⟨s, hr, hs, hdeposit, (interpret_depositing_iff hr hs).1⟩

end Machine
end Toolpath
