import Toolpath.Proofs.Motion.Step

/-! What the words of a line leave alone before the tool moves. A property that each part they set
keeps holds after all of them, and a view that shows none of these parts stays the same. -/

namespace Toolpath

variable {α : Type}

lemma ToolTable.resolve_lt (t : ToolTable) (requested : Int) :
    (t.resolve requested).index < t.size := by
  rw [resolve]
  split
  · exact t.tools_pos
  · exact Nat.mod_lt _ t.tools_pos

namespace State

lemma exists_applyCode_eq (hasL : Bool) (s : State) (code : Nat) :
    ∃ absolute units workplace plane retracted,
      s.applyCode hasL code = { s with absolute, units, workplace, plane, retracted } := by
  unfold applyCode
  split
  · split
    · exact ⟨_, _, _, _, _, rfl⟩
    · exact ⟨_, _, _, _, _, rfl⟩
  all_goals try exact ⟨_, _, _, _, _, rfl⟩
  split
  · exact ⟨_, _, _, _, _, rfl⟩
  · exact ⟨_, _, _, _, _, rfl⟩

/-- Whether a view shows nothing that G codes set. -/
def Uncoded (view : State → α) : Prop :=
  ∀ (s : State) (absolute : Bool) (units : Units) (workplace : Fin workplaceCount) (plane : Plane)
    (retracted : Bool), view { s with absolute, units, workplace, plane, retracted } = view s

variable {view : State → α}

lemma Uncoded.applyCode (h : Uncoded view) (hasL : Bool) (s : State) (code : Nat) :
    view (s.applyCode hasL code) = view s := by
  obtain ⟨absolute, units, workplace, plane, retracted, heq⟩ := exists_applyCode_eq hasL s code
  rw [heq, h]

lemma Uncoded.foldl_applyCode (h : Uncoded view) (hasL : Bool) (s : State) (codes : List Nat) :
    view (codes.foldl (State.applyCode hasL) s) = view s :=
  List.foldlRecOn (motive := fun t => view t = view s) codes _ rfl
    fun t ht code _ => (h.applyCode hasL t code).trans ht

end State

namespace Machine

/-- Whether a property outlasts the words of a line. -/
structure Steady (P : Machine → Prop) : Prop where
  codes : ∀ (m : Machine) (absolute : Bool) (units : Units) (workplace : Fin workplaceCount)
    (plane : Plane) (retracted : Bool), P m →
      P { m with state := { m.state with absolute, units, workplace, plane, retracted } }
  tool : ∀ (m : Machine) (tool : Nat), tool < m.tools.size → P m →
    P { m with state := { m.state with tool } }
  color : ∀ (m : Machine) (color : Color), P m → P { m with state := { m.state with color } }
  feedRate : ∀ (m : Machine) (feedRate : Float), P m →
    P { m with state := { m.state with feedRate } }
  spindle : ∀ (m : Machine) (spindleOn : Bool), P m →
    P { m with state := { m.state with spindleOn } }
  diagnostics : ∀ (m : Machine) (diagnostics : Diagnostics), P m → P { m with diagnostics }

namespace Steady

variable {P : Machine → Prop} {m : Machine} {i : Instruction} (h : Steady P) (hm : P m)

include h hm

lemma recordAll (faults : List Fault) : P (m.recordAll faults) := h.diagnostics m _ hm

lemma setColor (c : Color) : P (m.setColor c) := h.color m c hm

lemma setTool {index : Nat} (hi : index < m.tools.size) : P (m.setTool index) := by
  have htool := h.tool m index hi hm
  rw [Machine.setTool]
  split
  · exact htool
  · exact h.setColor htool _

lemma setFeedRate (rate : Float) : P (m.setFeedRate rate) := by
  have hrate := h.feedRate m rate hm
  rw [Machine.setFeedRate]
  split
  · exact h.setColor hrate _
  · exact hrate

lemma selectTool (requested : Int) : P (m.selectTool requested) := by
  have hi := m.tools.resolve_lt requested
  rw [Machine.selectTool]
  split
  · exact h.setTool (h.diagnostics m _ hm) hi
  · exact h.setTool hm hi

lemma mixColors : P (m.mixColors i) := by
  rw [Machine.mixColors]
  split
  · exact hm
  · split
    · exact h.setColor hm _
    · exact h.setColor hm _
    · exact hm

lemma applyM (code : Nat) : P (m.applyM i code) := by
  unfold Machine.applyM
  split
  · split
    · exact h.spindle m true hm
    · exact hm
  · split
    · exact h.spindle m true hm
    · exact hm
  · exact h.spindle m false hm
  · exact h.mixColors hm
  · exact h.setTool hm (Nat.mod_lt _ m.tools.tools_pos)
  · exact hm

lemma foldl_applyM (codes : List Nat) : P (codes.foldl (Machine.applyM i) m) :=
  List.foldlRecOn codes _ hm fun _ hm code _ => h.applyM hm code

lemma enterFeed : P (m.enterFeed i) := by
  rw [Machine.enterFeed]
  split
  · exact h.setFeedRate hm _
  · exact hm

lemma enterModes (stamp : Stamp) : P (m.enterModes i stamp) := by
  have hcodes : P { m with state := (i.codes 'G').foldl (State.applyCode (i.has 'L')) m.state } :=
    List.foldlRecOn (motive := fun s => P { m with state := s }) _ _ hm fun s hs code _ => by
      obtain ⟨absolute, units, workplace, plane, retracted, heq⟩ :=
        s.exists_applyCode_eq (i.has 'L') code
      rw [heq]
      exact h.codes _ absolute units workplace plane retracted hs
  exact h.recordAll hcodes _

lemma enterTool : P (m.enterTool i) := by
  rw [Machine.enterTool]
  split
  · split
    · exact h.selectTool hm _
    · exact hm
  · exact hm

lemma prepare (stamp : Stamp) : P (m.prepare i stamp) := by
  rw [prepare_eq]
  exact h.enterTool (h.foldl_applyM (h.enterModes (h.enterFeed hm) stamp) _)

end Steady

/-- Whether a view shows none of the parts that words set. -/
structure Unworded (view : Machine → α) : Prop where
  codes : ∀ m : Machine, State.Uncoded fun s => view { m with state := s }
  tool : ∀ (m : Machine) (tool : Nat), view { m with state := { m.state with tool } } = view m
  color : ∀ (m : Machine) (color : Color), view { m with state := { m.state with color } } = view m
  feedRate : ∀ (m : Machine) (feedRate : Float),
    view { m with state := { m.state with feedRate } } = view m
  spindle : ∀ (m : Machine) (spindleOn : Bool),
    view { m with state := { m.state with spindleOn } } = view m
  diagnostics : ∀ (m : Machine) (diagnostics : Diagnostics), view { m with diagnostics } = view m

namespace Unworded

variable {view : Machine → α} (h : Unworded view) (m : Machine) (i : Instruction)

include h

lemma steady (v : α) : Steady fun m => view m = v where
  codes m _ _ _ _ _ hm := (h.codes m m.state ..).trans hm
  tool m tool _ hm := (h.tool m tool).trans hm
  color m color hm := (h.color m color).trans hm
  feedRate m feedRate hm := (h.feedRate m feedRate).trans hm
  spindle m spindleOn hm := (h.spindle m spindleOn).trans hm
  diagnostics m diagnostics hm := (h.diagnostics m diagnostics).trans hm

lemma recordAll (faults : List Fault) : view (m.recordAll faults) = view m :=
  (h.steady _).recordAll rfl faults

lemma applyM (code : Nat) : view (m.applyM i code) = view m := (h.steady _).applyM rfl code

lemma foldl_applyM (codes : List Nat) : view (codes.foldl (Machine.applyM i) m) = view m :=
  (h.steady _).foldl_applyM rfl codes

lemma enterFeed : view (m.enterFeed i) = view m := (h.steady _).enterFeed rfl

lemma enterModes (stamp : Stamp) : view (m.enterModes i stamp) = view m :=
  (h.steady _).enterModes rfl stamp

lemma prepare (stamp : Stamp) : view (m.prepare i stamp) = view m := (h.steady _).prepare rfl stamp

end Unworded
end Machine
end Toolpath
