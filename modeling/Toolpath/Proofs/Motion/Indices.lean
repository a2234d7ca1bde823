import Toolpath.Proofs.Motion.Colors

/-! Indices that programs choose. Whatever numbers a line carries, what the machine looks up by them is
in its tables, at the very place that they name. -/

namespace Toolpath
namespace ToolTable

variable {t : ToolTable} {i : Nat}

def Shaded (t : ToolTable) : Prop := t.darker = t.tools.map (·.color.darken t.delta)

lemma shaded_ofList (tools : List Tool) (delta : Float32) : (ofList tools delta).Shaded := by
  rw [ofList]
  split <;> rfl

lemma size_ofList (tools : List Tool) (delta : Float32) :
    (ofList tools delta).size = max 1 tools.length := by
  rw [ofList]
  split
  · next h => exact (Nat.max_eq_right h).symm
  · next h =>
    rw [Nat.eq_zero_of_not_pos h]
    rfl

lemma Shaded.setDiameter (h : t.Shaded) (i : Nat) (d : Float) : (t.setDiameter i d).Shaded := by
  apply Array.ext_getElem?
  intro j
  dsimp only [ToolTable.setDiameter]
  rw [h, Array.getElem?_map, Array.getElem?_map, Array.getElem?_modify]
  split
  · rw [Option.map_map]
    rfl
  · rfl

@[simp] lemma size_setDiameter (t : ToolTable) (i : Nat) (d : Float) :
    (t.setDiameter i d).size = t.size := Array.size_modify

lemma getElem?_tools (h : i < t.size) : t.tools[i]? = some (t.get i) := by
  have hi : i < t.tools.size := h
  have hmod : i % t.tools.size = i := Nat.mod_eq_of_lt hi
  rw [Array.getElem?_eq_some_iff]
  exact ⟨hi, by simp only [get, hmod]⟩

lemma getElem?_darker (h : i < t.size) : t.darker[i]? = some (t.darkerColor i) := by
  have hi : i < t.darker.size := t.size_darker ▸ h
  have hmod : i % t.darker.size = i := Nat.mod_eq_of_lt hi
  rw [Array.getElem?_eq_some_iff]
  exact ⟨hi, by simp only [darkerColor, hmod]⟩

end ToolTable

namespace State

lemma workplaceOf?_eq_some_iff {code : Nat} {w : Fin workplaceCount} :
    workplaceOf? code = some w ↔ code = if w.val < 6 then 540 + 10 * w.val else 585 + w.val := by
  constructor
  · intro h
    unfold workplaceOf? at h
    split at h
    all_goals first | (obtain rfl := Option.some.inj h; rfl) | cases h
  · rintro rfl
    revert w
    decide

end State

namespace Machine

variable {m m' : Machine} {i : Instruction} {stamp : Stamp}

lemma workplace?_eq_some_iff {active w : Fin workplaceCount} {p : Int} :
    workplace? active p = some w ↔ p = 0 ∧ w = active ∨ p = w.val + 1 := by
  have hw : w.val < 9 := w.isLt
  rw [workplace?]
  split
  · next hzero =>
    have hnot : ¬ p = w.val + 1 := by omega
    rw [Option.some.injEq, or_iff_left hnot, and_iff_right hzero, eq_comm]
  · next hzero =>
    split
    · next hrange =>
      simp only [Option.some.injEq, Fin.ext_iff, hzero, false_and, false_or]
      omega
    · next hrange =>
      have hnot : ¬ p = w.val + 1 := by omega
      simp [hzero, hnot]

def InRange (m : Machine) : Prop := m.state.tool < m.tools.size

lemma InRange.congr (h : m.InRange) (hpaint : m'.state.paint = m.state.paint)
    (hrig : m'.rig = m.rig) : m'.InRange := by
  have htool : m'.state.tool = m.state.tool := congrArg State.Paint.tool hpaint
  have htools : m'.tools = m.tools := congrArg Rig.tools hrig
  rw [InRange, htool, htools]
  exact h

lemma steady_inRange : Steady InRange where
  codes _ _ _ _ _ _ h := h
  tool _ _ ht _ := ht
  color _ _ h := h
  feedRate _ _ h := h
  spindle _ _ h := h
  diagnostics _ _ h := h

/-- The machine in the middle of a line, after the feed rate, the G codes and some of the M codes. -/
def midway (m : Machine) (i : Instruction) (stamp : Stamp) (n : Nat) : Machine :=
  ((i.codes 'M').take n).foldl (applyM i) ((m.enterFeed i).enterModes i stamp)

lemma Steady.midway {P : Machine → Prop} (h : Steady P) (hm : P m) (n : Nat) :
    P (m.midway i stamp n) :=
  h.foldl_applyM (h.enterModes (h.enterFeed hm) stamp) _

lemma InRange.execute (h : m.InRange) : (m.execute i stamp).1.InRange :=
  (steady_inRange.prepare h stamp).congr (executed m i stamp).paint_eq (executed m i stamp).rig_eq

lemma InRange.annotate (h : m.InRange) (line : List Char) : (m.annotate line).InRange := by
  rw [Machine.annotate]
  dsimp only
  split <;> exact h

lemma InRange.interpret (h : m.InRange) (line : List Char) (stamp : Stamp) :
    (m.interpret line stamp).1.InRange := by
  have hinterpreted := m.interpreted line stamp
  generalize m.interpret line stamp = r at hinterpreted
  cases hinterpreted with
  | blank _ => exact h
  | comment _ => exact h.annotate _
  | wordless _ => exact h
  | words _ hr =>
    rw [← hr]
    exact (steady_inRange.recordAll h _).execute

structure Grounded (m : Machine) : Prop where
  tool_lt : m.state.tool < m.tools.size
  tool_eq : m.tools.tools[m.state.tool]? = some (m.tools.get m.state.tool)
  darker_eq : m.tools.darker[m.state.tool]? = some (m.tools.darkerColor m.state.tool)
  workplace_lt : (m.state.workplace : Nat) < 9
  offset_eq : m.state.offsets[(m.state.workplace : Nat)]? = some m.state.workplaceOffset

lemma InRange.grounded (h : m.InRange) : m.Grounded where
  tool_lt := h
  tool_eq := ToolTable.getElem?_tools h
  darker_eq := ToolTable.getElem?_darker h
  workplace_lt := m.state.workplace.isLt
  offset_eq := Vector.getElem?_eq_getElem _

lemma inRange_ofTools {s : Settings} {tools : ToolTable} {style : SlicerStyle}
    (h : ofTools s tools style = .ok m) : m.InRange := by
  obtain ⟨resolution, rfl⟩ := exists_of_ofTools h
  exact tools.tools_pos

end Machine

namespace Run

variable {s : Settings} {style : SlicerStyle} {m : Machine} {g : Segment}
  {lines : List (List Char × Stamp)}

lemma inRange_feedAll (h : Machine.ofSettings s style = .ok m) (lines : List (List Char × Stamp)) :
    ((⟨m, {}⟩ : Run).feedAll lines).machine.InRange :=
  machine_feedAll (Machine.inRange_ofTools h) fun _ hm line _ => hm.interpret line.1 line.2

lemma tools_feedAll (h : Machine.ofSettings s style = .ok m) (lines : List (List Char × Stamp)) :
    ((⟨m, {}⟩ : Run).feedAll lines).machine.tools = s.toolTable :=
  (equipped_feedAll h lines).tools

lemma tool_lt (h : Machine.ofSettings s style = .ok m)
    (hg : g ∈ ((⟨m, {}⟩ : Run).feedAll lines).store.segments) : g.tool < s.toolTable.size := by
  obtain ⟨past, -, k, p, q, rfl⟩ := exists_draws rfl hg
  rw [← tools_feedAll h past]
  exact inRange_feedAll h past

lemma setDiameters_keeps (r : Run) (diameters : List Float) :
    (r.setDiameters diameters).machine.tools.size = r.machine.tools.size ∧
      (r.machine.tools.Shaded → (r.setDiameters diameters).machine.tools.Shaded) :=
  List.foldlRecOn (motive := fun t : ToolTable =>
    t.size = r.machine.tools.size ∧ (r.machine.tools.Shaded → t.Shaded)) diameters.zipIdx _
    ⟨rfl, id⟩ fun t ht d _ =>
      ⟨(t.size_setDiameter d.2 d.1).trans ht.1, fun h => (ht.2 h).setDiameter d.2 d.1⟩

theorem feedAll_grounded (h : Machine.ofSettings s style = .ok m)
    (lines : List (List Char × Stamp)) :
    let r := (⟨m, {}⟩ : Run).feedAll lines
    let tools := r.machine.tools
    tools.size = max 1 s.tools.length ∧ tools.Shaded ∧ r.machine.Grounded ∧
      (∀ g ∈ r.store.segments, g.tool < tools.size) ∧
      (∀ i stamp, (∀ n, (r.machine.midway i stamp n).Grounded ∧
          (r.machine.midway i stamp n).tools = tools) ∧
        (r.machine.prepare i stamp).Grounded ∧ (r.machine.prepare i stamp).tools = tools) ∧
      (∀ diameters, (r.setDiameters diameters).machine.Grounded ∧
        (r.setDiameters diameters).machine.tools.size = tools.size ∧
        (r.setDiameters diameters).machine.tools.Shaded) ∧
      (∀ requested, (tools.resolve requested).index < tools.size) ∧
      (∀ code w, State.workplaceOf? code = some w ↔
        code = if w.val < 6 then 540 + 10 * w.val else 585 + w.val) ∧
      ∀ p active w, Machine.workplace? active p = some w ↔ p = 0 ∧ w = active ∨ p = w.val + 1 := by
  intro r tools
  have htools : tools = s.toolTable := tools_feedAll h lines
  have hshaded : tools.Shaded := by
    rw [htools]
    exact ToolTable.shaded_ofList _ _
  have hr : r.machine.InRange := inRange_feedAll h lines
  refine ⟨?_, hshaded, hr.grounded, fun g hg => ?_, fun i stamp => ⟨fun n => ?_, ?_⟩,
    fun diameters => ?_, tools.resolve_lt, fun _ _ => State.workplaceOf?_eq_some_iff,
    fun _ _ _ => Machine.workplace?_eq_some_iff⟩
  · rw [htools]
    exact ToolTable.size_ofList _ _
  · rw [htools]
    exact tool_lt h hg
  · have hrig : (r.machine.midway i stamp n).rig = r.machine.rig :=
      (Machine.unworded_rig.steady _).midway rfl n
    exact ⟨(Machine.steady_inRange.midway hr n).grounded, congrArg Machine.Rig.tools hrig⟩
  · have hrig := Machine.unworded_rig.prepare r.machine i stamp
    exact ⟨(Machine.steady_inRange.prepare hr stamp).grounded, congrArg Machine.Rig.tools hrig⟩
  · obtain ⟨hsize, hkeeps⟩ := r.setDiameters_keeps diameters
    have hset : (r.setDiameters diameters).machine.InRange := by
      rw [Machine.InRange, hsize]
      exact hr
    exact ⟨hset.grounded, hsize, hkeeps hshaded⟩

theorem feedAll_grounded_no_tools :
    let s : Settings := { tools := [] }
    let new : ToolTable → Machine := fun tools => {
      parsing := {}
      coloring := {}
      resolution := {}
      tools
      classifier := { style := .cura }
      state := .initial true (tools.color 0) none }
    let m := new s.toolTable
    let lines : List (List Char × Stamp) := [("T-3".toList, ⟨1, 4⟩), ("T1e30".toList, ⟨2, 10⟩),
      ("G59.3 G10 L2 P8.7 X1".toList, ⟨3, 31⟩), ("M600".toList, ⟨4, 36⟩),
      ("G1 X5 E1".toList, ⟨5, 45⟩)]
    let r := (⟨m, {}⟩ : Run).feedAll lines
    Machine.ofSettings s .cura = .ok m ∧ r.machine.tools.size = 1 ∧ r.machine.Grounded ∧
      r.machine.state.workplace = 8 ∧ r.machine.state.position.x = 6.0 ∧
      (∃ g ∈ r.store.segments, g.tool < r.machine.tools.size) := by
  intro s new m lines r
  have hnew (tools : ToolTable) :
      Machine.ofTools { tools := [] } tools .cura = .ok (new tools) := by rfl
  have hm : Machine.ofSettings s .cura = .ok m := hnew s.toolTable
  have hr : (⟨m, {}⟩ : Run).feedAll lines = r := rfl
  obtain ⟨hsize, -, hgrounded, hsegments, -⟩ := feedAll_grounded hm lines
  rw [hr] at hsize hgrounded hsegments
  have hworkplace : r.machine.state.workplace = 8 := by decide +kernel
  have hposition : r.machine.state.position.x = 6.0 := by decide +kernel
  have hdrawn : r.store.segments.size = 1 := by decide +kernel
  have hg : r.store.segments[0] ∈ r.store.segments := Array.getElem_mem _
  exact ⟨hm, hsize, hgrounded, hworkplace, hposition, _, hg, hsegments _ hg⟩

end Run
end Toolpath
