import Toolpath.Proofs.Motion.Frame
import Toolpath.Proofs.Motion.Kinematics
import Toolpath.Proofs.Segment.Growth

/-! The path of the tool. Its place in the world always follows from its machine coordinates, and
what a line draws leads without a gap from where the tool was to where it is then. -/

namespace Toolpath
namespace State

/-- Where the tool stands, and what its next move depends on besides the line. -/
structure Stance where
  position : Point
  machine : Point
  mode : MotionMode
  belt : Option BeltGeometry

def stance (s : State) : Stance := ⟨s.position, s.machine, s.mode, s.belt⟩

def Placed (s : State) : Prop := s.position = s.toWorld s.machine

variable {s t : State} {i : Instruction}

lemma uncoded_stance : Uncoded stance := fun _ _ _ _ _ _ => rfl

lemma stance_spin (i : Instruction) (s : State) (code : Nat) : (s.spin i code).stance = s.stance := by
  unfold spin
  split
  · split <;> rfl
  · split <;> rfl
  · rfl
  · rfl

lemma stance_enterFeed (s : State) (i : Instruction) : (s.enterFeed i).stance = s.stance := by
  rw [enterFeed]
  split <;> rfl

lemma stance_prepare (s : State) (i : Instruction) : (s.prepare i).stance = s.stance := by
  rw [prepare]
  refine List.foldlRecOn (motive := fun t => t.stance = s.stance) _ _ ?_
    fun t ht code _ => (stance_spin i t code).trans ht
  exact (uncoded_stance.foldl_applyCode _ _ _).trans (stance_enterFeed s i)

lemma stance_setOffset (s : State) (i : Instruction) : (s.setOffset i).stance = s.stance := by
  rw [setOffset]
  split <;> rfl

lemma Placed.congr (h : s.Placed) (hs : t.stance = s.stance) : t.Placed := by
  obtain ⟨hp, hm, -, hb⟩ := Stance.mk.inj hs
  rw [Placed, toWorld, hp, hm, hb]
  exact h

lemma placed_kinematics : s.kinematics.Placed ↔ s.Placed := Iff.rfl

lemma placed_moveTo (s : State) (p : Point) : (s.moveTo p).Placed := rfl

lemma Placed.execute (h : s.Placed) (i : Instruction) : (s.execute i).Placed := by
  have hp := h.congr (stance_prepare s i)
  rw [State.execute]
  split
  · exact hp.congr (stance_setOffset _ i)
  · split
    · exact placed_moveTo ..
    · split
      · exact placed_moveTo ..
      · exact hp

lemma Placed.follow (h : s.Placed) (line : List Char) : (s.follow line).Placed := by
  rw [State.follow]
  dsimp only
  split
  · exact h
  · split
    · exact h
    · exact h.execute _

lemma placed_initial (absolute : Bool) (color : Color) (belt : Option BeltGeometry) :
    (initial absolute color belt).Placed := rfl

end State

lemma Machine.placed_interpret {m : Machine} (h : m.state.Placed) (line : List Char)
    (stamp : Stamp) : (m.interpret line stamp).1.state.Placed := by
  rw [← State.placed_kinematics, kinematics_interpret]
  exact (State.placed_kinematics.mpr h).follow line

lemma Machine.Reachable.placed {s : Settings} {m : Machine} (h : m.Reachable s) : m.state.Placed := by
  induction h with
  | start h =>
    rw [← State.placed_kinematics, kinematics_ofTools h, State.placed_kinematics]
    exact State.placed_initial ..
  | interpret line stamp _ ih => exact placed_interpret ih line stamp
  | equip tools _ ih => exact ih

namespace Segment

def Lead : Point → List Segment → Point → Prop
  | p, [], q => p = q
  | p, s :: rest, q => s.start = p ∧ Lead s.stop rest q

def Alike (s t : Segment) : Prop := { s with start := t.start, stop := t.stop } = t

structure Stretch (p : Point) (stamp : Stamp) (path : List Segment) (q : Point) : Prop where
  lead : Lead p path q
  stamp_eq : ∀ s ∈ path, s.stamp = stamp
  alike : ∀ s ∈ path, ∀ t ∈ path, s.Alike t

end Segment

namespace Machine

open Segment

variable {m : Machine} {stamp : Stamp}

lemma lead_path (m : Machine) (k : Stroke) (start : Point) (inner : List Point) (target : Point) :
    Lead start (m.path k start (inner ++ [target])) (m.state.toWorld target) := by
  induction inner generalizing start with
  | nil => exact ⟨rfl, rfl⟩
  | cons p inner ih => exact ⟨rfl, ih _⟩

lemma exists_of_mem_path {k : Stroke} {start : Point} {points : List Point} {s : Segment}
    (h : s ∈ m.path k start points) : ∃ p q, s = m.segment k p q := by
  induction points generalizing start with
  | nil => cases h
  | cons p points ih =>
    rcases List.mem_cons.mp h with rfl | h
    · exact ⟨start, m.state.toWorld p, rfl⟩
    · exact ih h

lemma stretch_path (m : Machine) (k : Stroke) (start : Point) (inner : List Point) (target : Point) :
    Stretch start k.stamp (m.path k start (inner ++ [target])) (m.state.toWorld target) where
  lead := m.lead_path k start inner target
  stamp_eq s hs := by
    obtain ⟨p, q, rfl⟩ := exists_of_mem_path hs
    rfl
  alike s hs t ht := by
    obtain ⟨p, q, rfl⟩ := exists_of_mem_path hs
    obtain ⟨p', q', rfl⟩ := exists_of_mem_path ht
    rfl

lemma filterMap_segment?_map (segments : List Segment) :
    (segments.map Emission.segment).filterMap Emission.segment? = segments := by
  rw [List.filterMap_map]
  exact List.filterMap_some

lemma segments_draw (m : Machine) (k : Stroke) (start : Point) (points : List Point) (z : Float) :
    (m.draw k start points z).2.filterMap Emission.segment? =
      (m.draw k start points z).1.path k start points := by
  unfold draw
  cases k.depositing with
  | false => exact filterMap_segment?_map _
  | true =>
    dsimp only
    rw [if_pos rfl, List.filterMap_append, filterMap_segment?_map, trackLayer]
    split <;> rfl

lemma exists_of_mem_draw {k : Stroke} {start : Point} {points : List Point} {z : Float} {s : Segment}
    (h : s ∈ (m.draw k start points z).2.filterMap Emission.segment?) :
    ∃ p q, s = (m.draw k start points z).1.segment k p q := by
  rw [segments_draw] at h
  exact exists_of_mem_path h

lemma Moved.position {mode : MotionMode} {target : Point} {r : Machine × List Emission}
    (h : Moved m mode target stamp r) : r.1.state.position = r.1.state.toWorld target := by
  have hk := h.kinematics
  have hplaced : r.1.state.Placed := by
    rw [← State.placed_kinematics, hk]
    exact State.placed_moveTo ..
  have hmachine : r.1.state.machine = target := (congrArg State.machine hk :)
  rw [hplaced, hmachine]

lemma Moved.stretch {mode : MotionMode} {target : Point} {r : Machine × List Emission}
    (h : Moved m mode target stamp r) :
    r.2.filterMap Emission.segment? = [] ∨
      Stretch m.state.position stamp (r.2.filterMap Emission.segment?) r.1.state.position := by
  rw [h.position]
  cases h with
  | unseen => exact Or.inl rfl
  | degenerate e => exact Or.inl rfl
  | overflow => exact Or.inl rfl
  | drawn depositing inner _ _ =>
    rw [segments_draw]
    exact Or.inr (stretch_path _ ⟨stamp, depositing, _, _⟩ ..)

lemma position_prepare (m : Machine) (i : Instruction) (stamp : Stamp) :
    (m.prepare i stamp).state.position = m.state.position := by
  have hk := m.kinematics_prepare i stamp
  have hs := State.stance_prepare m.state.kinematics i
  rw [← hk] at hs
  exact congrArg State.Stance.position hs

lemma Executed.stretch {i : Instruction} {r : Machine × List Emission} (h : Executed m i stamp r) :
    r.2.filterMap Emission.segment? = [] ∨
      Stretch m.state.position stamp (r.2.filterMap Emission.segment?) r.1.state.position := by
  cases h with
  | offset => exact Or.inl rfl
  | home => exact Or.inl rfl
  | move mode machineCoords => exact (moved ..).stretch
  | idle => exact Or.inl rfl

lemma Interpreted.stretch {line : List Char} {r : Machine × Drawing}
    (h : Interpreted m line stamp r) :
    r.2.segments = [] ∨ Stretch m.state.position stamp r.2.segments r.1.state.position := by
  cases h with
  | blank _ => exact Or.inl rfl
  | comment _ => exact Or.inl rfl
  | wordless _ => exact Or.inl rfl
  | words _ hr =>
    have hexecuted := (m.recordAll (malformed line stamp)).executed (instruction line) stamp
    rw [hr] at hexecuted
    have hs := hexecuted.stretch
    rw [position_prepare] at hs
    exact hs

lemma stamp_eq_of_mem {line : List Char} {s : Segment}
    (h : s ∈ (m.interpret line stamp).2.segments) : s.stamp = stamp := by
  rcases (m.interpreted line stamp).stretch with hnil | hs
  · rw [hnil] at h
    cases h
  · exact hs.stamp_eq s h

end Machine

theorem Run.feed_stretch {s : Settings} {m : Machine} (h : m.Reachable s) (store : Store)
    (line : List Char) (stamp : Stamp) :
    let drawing := (m.interpret line stamp).2
    let after := (⟨m, store⟩ : Run).feed line stamp
    m.state.Placed ∧ after.machine.state.Placed ∧
      after.store.segments.toList = store.segments.toList ++ drawing.segments ∧
      store.layers.toList <+: after.store.layers.toList ∧
      after.store.size = store.size + drawing.count ∧
      (drawing.segments ≠ [] →
        Segment.Stretch m.state.position stamp drawing.segments after.machine.state.position) := by
  simp only [machine_feed, store_feed]
  obtain ⟨layers, _, hlayers⟩ := store.exists_layers_draw stamp (m.interpret line stamp).2
  refine ⟨h.placed, (h.interpret line stamp).placed, store.toList_segments_draw stamp _,
    ⟨layers, hlayers.symm⟩, store.size_draw stamp _, fun hne => ?_⟩
  exact (m.interpreted line stamp).stretch.resolve_left hne

theorem Run.feed_stretch_inches :
    let m : Machine := {
      parsing := {}
      coloring := {}
      resolution := {}
      tools := Settings.toolTable {}
      classifier := { style := .generic }
      state := .initial true ((Settings.toolTable {}).color 0) none }
    let moved := (m.interpret "G20 G91 G0 X2 Z1".toList ⟨1, 17⟩).1
    let line := "G1 X1 Y-0.5 E1".toList
    moved.Reachable {} ∧ (moved.interpret line ⟨2, 32⟩).2.count = 1 ∧
      (moved.interpret line ⟨2, 32⟩).2.segments ≠ [] ∧
      Segment.Stretch moved.state.position ⟨2, 32⟩ (moved.interpret line ⟨2, 32⟩).2.segments
        ((⟨moved, {}⟩ : Run).feed line ⟨2, 32⟩).machine.state.position := by
  intro m moved line
  have hm : Machine.ofTools {} (Settings.toolTable {}) .generic = .ok m := by rfl
  have hr : moved.Reachable {} := (Machine.Reachable.start hm).interpret ..
  have hcount : (moved.interpret line ⟨2, 32⟩).2.count = 1 := by decide +kernel
  have hne : (moved.interpret line ⟨2, 32⟩).2.segments ≠ [] := by
    intro h
    rw [Drawing.count, h] at hcount
    cases hcount
  obtain ⟨_, _, _, _, _, hstretch⟩ := feed_stretch hr {} line ⟨2, 32⟩
  exact ⟨hr, hcount, hne, hstretch hne⟩

end Toolpath
