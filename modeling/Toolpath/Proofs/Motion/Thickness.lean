import Toolpath.Proofs.Difference
import Toolpath.Proofs.Motion.Annotations
import Toolpath.Proofs.Motion.Layers

/-! The thickness of segments. All that a line draws is as thick as the machine is set to before it
runs: a layer that the line begins counts from the next line on. -/

namespace Toolpath
namespace Machine

variable {m : Machine} {stamp : Stamp} {t : Float}

def clearance (m : Machine) : Float := if 0.0 < m.state.machine.z then m.state.machine.z else 0.0

lemma clearance_nonneg (m : Machine) : 0.0 ≤ m.clearance := by
  rw [clearance]
  split
  · next h => exact float_le_of_lt h
  · decide

lemma segmentHeight_of_hint (h : m.classifier.heightHint = some t) : m.segmentHeight = t := by
  rw [segmentHeight, h]

lemma segmentHeight_of_none (h : m.classifier.heightHint = none) :
    m.segmentHeight =
      if 0.0 < m.state.layerHeight - m.state.previousLayerHeight then
        m.state.layerHeight - m.state.previousLayerHeight
      else m.clearance := by
  rw [segmentHeight, h]
  rfl

lemma segmentHeight_nonneg (h : m.classifier.heightHint = none) : 0.0 ≤ m.segmentHeight := by
  rw [segmentHeight_of_none h]
  split
  · next hpos => exact float_le_of_lt hpos
  · exact m.clearance_nonneg

lemma unworded_segmentHeight : Unworded segmentHeight where
  codes _ _ _ _ _ _ _ := rfl
  tool _ _ := rfl
  color _ _ := rfl
  feedRate _ _ := rfl
  spindle _ _ := rfl
  diagnostics _ _ := rfl

lemma Moved.layerHeight_eq {mode : MotionMode} {target : Point} {r : Machine × List Emission}
    (h : Moved m mode target stamp r) :
    ∀ g ∈ r.2.filterMap Emission.segment?, g.layerHeight = m.segmentHeight := by
  cases h with
  | unseen => exact List.forall_mem_nil _
  | degenerate e => exact List.forall_mem_nil _
  | overflow => exact List.forall_mem_nil _
  | drawn depositing inner _ _ =>
    intro g hg
    obtain ⟨p, q, rfl⟩ := exists_of_mem_draw hg
    rfl

lemma Executed.layerHeight_eq {i : Instruction} {r : Machine × List Emission}
    (h : Executed m i stamp r) :
    ∀ g ∈ r.2.filterMap Emission.segment?, g.layerHeight = m.segmentHeight := by
  cases h with
  | offset => exact List.forall_mem_nil _
  | home => exact List.forall_mem_nil _
  | move mode machineCoords => exact (moved ..).layerHeight_eq
  | idle => exact List.forall_mem_nil _

lemma Interpreted.layerHeight_eq {line : List Char} {r : Machine × Drawing}
    (h : Interpreted m line stamp r) : ∀ g ∈ r.2.segments, g.layerHeight = m.segmentHeight := by
  cases h with
  | blank _ => exact List.forall_mem_nil _
  | comment _ => exact List.forall_mem_nil _
  | wordless _ => exact List.forall_mem_nil _
  | words _ hr =>
    have hexecuted := (m.recordAll (malformed line stamp)).executed (instruction line) stamp
    have hheight := unworded_segmentHeight.prepare (m.recordAll (malformed line stamp))
      (instruction line) stamp
    rw [unworded_segmentHeight.recordAll] at hheight
    rw [hr] at hexecuted
    rw [← hheight]
    exact hexecuted.layerHeight_eq

end Machine

namespace Run

variable {r : Run} {lines : List (List Char × Stamp)} {g : Segment}

lemma feedAll_append (r : Run) (lines later : List (List Char × Stamp)) :
    r.feedAll (lines ++ later) = (r.feedAll lines).feedAll later := by
  rw [feedAll, List.foldl_append, feedAll, feedAll]

lemma Layered.segmentHeight_of_concat (h : r.Layered) (hhint : r.machine.classifier.heightHint = none)
    {below : List Layer} {l : Layer} (hlayers : r.store.layers.toList = below ++ [l]) :
    r.machine.segmentHeight = l.height - (below.map Layer.height).getLastD 0.0 := by
  have hheights : r.store.heights = below.map Layer.height ++ [l.height] := by
    rw [Store.heights, hlayers, List.map_append]
    rfl
  have hcurrent := h.current
  have hprevious := h.previous
  have hchain := h.index.heights
  rw [hheights] at hcurrent hprevious hchain
  rw [List.getLastD_concat] at hcurrent
  rw [List.dropLast_concat] at hprevious
  rw [← List.cons_append, List.isChain_append] at hchain
  have hlt : (below.map Layer.height).getLastD 0.0 < l.height := by
    refine hchain.2.2 _ ?_ _ rfl
    rw [List.getLast?_cons, ← List.getLastD_eq_getLast?]
    rfl
  rw [Machine.segmentHeight_of_none hhint, hcurrent, hprevious, if_pos (zero_lt_sub hlt)]

lemma Layered.segmentHeight_of_nil (h : r.Layered) (hhint : r.machine.classifier.heightHint = none)
    (hlayers : r.store.layers.toList = []) : r.machine.segmentHeight = r.machine.clearance := by
  have hcurrent := h.current
  have hprevious := h.previous
  rw [Store.heights, hlayers] at hcurrent hprevious
  rw [Machine.segmentHeight_of_none hhint, hcurrent, hprevious, if_neg (by decide +kernel)]

lemma exists_begun_from (hr : r.store = {}) {past later : List (List Char × Stamp)}
    {line : List Char × Stamp}
    (hrising : (past ++ line :: later).Pairwise fun line line' => line.2.offset < line'.2.offset) :
    ∃ begun, (r.feedAll (past ++ line :: later)).store.layers.toList =
        (r.feedAll past).store.layers.toList ++ begun ∧
      (∀ l ∈ (r.feedAll past).store.layers.toList, l.stamp.offset < line.2.offset) ∧
      ∀ l ∈ begun, line.2.offset ≤ l.stamp.offset := by
  obtain ⟨-, hlater, hpast⟩ := List.pairwise_append.mp hrising
  obtain ⟨begun, hbegun, hstamps⟩ := (r.feedAll past).exists_layers_feedAll (line :: later)
  rw [← feedAll_append] at hbegun
  refine ⟨begun, hbegun, fun l hl => ?_, fun l hl => ?_⟩
  · obtain ⟨earlier, hearlier, hstamp⟩ := exists_stamp_eq hr hl
    rw [hstamp]
    exact hpast earlier hearlier line List.mem_cons_self
  · obtain ⟨other, hother, hstamp⟩ := hstamps l hl
    rw [hstamp]
    rcases List.mem_cons.mp hother with rfl | hother
    · exact Nat.le_refl _
    · exact Nat.le_of_lt ((List.pairwise_cons.mp hlater).1 other hother)

lemma exists_concat_of_getElem? {α : Type} {p : α → Prop} {first rest : List α} {k : Nat} {a : α}
    (hfirst : ∀ b ∈ first, p b) (hrest : ∀ b ∈ rest, ¬ p b) (hk : (first ++ rest)[k]? = some a)
    (ha : p a) (hnext : ∀ b, (first ++ rest)[k + 1]? = some b → ¬ p b) :
    ∃ below, first = below ++ [a] ∧ below.length = k := by
  have hlt : k < first.length := by
    by_contra hge
    rw [List.getElem?_append_right (Nat.not_lt.mp hge)] at hk
    exact hrest a (List.mem_of_getElem? hk) ha
  have hle : first.length ≤ k + 1 := by
    by_contra hgt
    have hentry := List.getElem?_eq_getElem (Nat.not_le.mp hgt)
    have happend : (first ++ rest)[k + 1]? = first[k + 1]? :=
      List.getElem?_append_left (Nat.not_le.mp hgt)
    exact hnext _ (happend.trans hentry) (hfirst _ (List.getElem_mem _))
  rw [List.getElem?_append_left hlt] at hk
  refine ⟨first.take k, ?_, List.length_take_of_le (Nat.le_of_lt hlt)⟩
  calc first = first.take (k + 1) := (List.take_of_length_le hle).symm
    _ = first.take k ++ [a] := by rw [List.take_add_one, hk]; rfl

lemma getD_cons_append (d : Float) (below rest : List Float) :
    (d :: (below ++ rest)).getD below.length d = below.getLastD d := by
  rcases below.eq_nil_or_concat with rfl | ⟨init, x, rfl⟩
  · rfl
  · simp [List.getD_eq_getElem?_getD]

theorem feedAll_thickness {s : Settings} {tools : ToolTable} {style : SlicerStyle} {m : Machine}
    (h : Machine.ofTools s tools style = .ok m) {lines : List (List Char × Stamp)}
    (hrising : lines.Pairwise fun line line' => line.2.offset < line'.2.offset)
    (hplain : announced style lines = []) :
    let st := ((⟨m, {}⟩ : Run).feedAll lines).store
    ∀ g ∈ st.segments,
      (∀ k l, st.layers[k]? = some l → l.stamp.offset < g.offset →
        (∀ l', st.layers[k + 1]? = some l' → g.offset ≤ l'.stamp.offset) →
        g.layerHeight = l.height - (0.0 :: st.heights).getD k 0.0) ∧
      ((∀ l ∈ st.layers, g.offset ≤ l.stamp.offset) →
        ∃ past line, past ++ [line] <+: lines ∧ g.stamp = line.2 ∧
          g.layerHeight = ((⟨m, {}⟩ : Run).feedAll past).machine.clearance) := by
  intro st g hg
  obtain ⟨past, line, later, rfl, hdrawn⟩ := exists_line_of_mem rfl hg
  have hstamp : g.stamp = line.2 := Machine.stamp_eq_of_mem hdrawn
  have hthickness := (Machine.interpreted ..).layerHeight_eq g hdrawn
  obtain ⟨begun, hlayers, hbefore, hfrom⟩ := exists_begun_from (r := ⟨m, {}⟩) rfl hrising
  have hlayered : ((⟨m, {}⟩ : Run).feedAll past).Layered :=
    (layered_ofTools h).feedAll rfl (List.pairwise_append.mp hrising).1
  have hhint : ((⟨m, {}⟩ : Run).feedAll past).machine.classifier.heightHint = none := by
    rw [announced, List.filterMap_append, List.append_eq_nil_iff] at hplain
    rw [heightHint_feedAll h, announced, hplain.1, List.getLast?_nil]
  have hoffset : g.offset = line.2.offset := congrArg Stamp.offset hstamp
  rw [← hoffset] at hbefore hfrom
  refine ⟨fun k l hl hlow hhigh => ?_, fun hall => ⟨past, line, ?_, hstamp, ?_⟩⟩
  · simp only [← Array.getElem?_toList, st, hlayers] at hl hhigh
    obtain ⟨below, hbelow, hk⟩ := exists_concat_of_getElem? hbefore
      (fun l hl => Nat.not_lt.mpr (hfrom l hl)) hl hlow fun l' hl' => Nat.not_lt.mpr (hhigh l' hl')
    have hheights : st.heights =
        below.map Layer.height ++ (l.height :: begun.map Layer.height) := by
      rw [Store.heights, hlayers, hbelow]
      simp
    have hlength : (below.map Layer.height).length = k := by rw [List.length_map, hk]
    rw [hthickness, hlayered.segmentHeight_of_concat hhint hbelow, hheights, ← hlength,
      getD_cons_append]
  · exact ⟨later, by simp⟩
  · rw [hthickness]
    refine hlayered.segmentHeight_of_nil hhint (List.eq_nil_iff_forall_not_mem.mpr fun l hl => ?_)
    have hle := hall l (Array.mem_toList_iff.mp (hlayers ▸ List.mem_append_left _ hl))
    exact Nat.not_le.mpr (hbefore l hl) hle

theorem feedAll_announced {s : Settings} {tools : ToolTable} {style : SlicerStyle} {m : Machine}
    (h : Machine.ofTools s tools style = .ok m) (lines : List (List Char × Stamp)) :
    let st := ((⟨m, {}⟩ : Run).feedAll lines).store
    (∀ g ∈ st.segments, ∃ past line, past ++ [line] <+: lines ∧ g.stamp = line.2 ∧
      ((announced style past).getLast? = some g.layerHeight ∨
        announced style past = [] ∧ 0.0 ≤ g.layerHeight)) ∧
      ((∀ t ∈ announced style lines, 0.0 ≤ t) → ∀ g ∈ st.segments, 0.0 ≤ g.layerHeight) ∧
      (style ≠ .orcaSlicer → ∀ g ∈ st.segments, 0.0 ≤ g.layerHeight) := by
  intro st
  have hsources : ∀ g ∈ st.segments, ∃ past line, past ++ [line] <+: lines ∧ g.stamp = line.2 ∧
      ((announced style past).getLast? = some g.layerHeight ∨
        announced style past = [] ∧ 0.0 ≤ g.layerHeight) := by
    intro g hg
    obtain ⟨past, line, later, rfl, hdrawn⟩ := exists_line_of_mem rfl hg
    have hhint := heightHint_feedAll h past
    refine ⟨past, line, ⟨later, by simp⟩, Machine.stamp_eq_of_mem hdrawn, ?_⟩
    rw [(Machine.interpreted ..).layerHeight_eq g hdrawn]
    cases hlast : (announced style past).getLast? with
    | none =>
      rw [hlast] at hhint
      exact Or.inr ⟨List.getLast?_eq_none_iff.mp hlast, Machine.segmentHeight_nonneg hhint⟩
    | some t =>
      rw [hlast] at hhint
      exact Or.inl (congrArg some (Machine.segmentHeight_of_hint hhint).symm)
  have hsound : (∀ t ∈ announced style lines, 0.0 ≤ t) → ∀ g ∈ st.segments, 0.0 ≤ g.layerHeight := by
    intro hall g hg
    obtain ⟨past, line, hpast, -, hlast | ⟨-, hnonneg⟩⟩ := hsources g hg
    · have hsub := ((List.prefix_append past [line]).trans hpast).filterMap (style.height? ·.1)
      exact hall _ (hsub.subset (List.mem_of_getLast? hlast))
    · exact hnonneg
  refine ⟨hsources, hsound, fun hstyle => hsound fun t ht => ?_⟩
  rw [announced_eq_nil hstyle] at ht
  cases ht

theorem feedAll_announced_twice :
    let m : Machine := {
      parsing := {}
      coloring := {}
      resolution := {}
      tools := Settings.toolTable {}
      classifier := { style := .orcaSlicer }
      state := .initial true ((Settings.toolTable {}).color 0) none }
    let lines : List (List Char × Stamp) := [(";HEIGHT:0.25".toList, ⟨1, 13⟩),
      ("G1 X5 Z0.5 E1".toList, ⟨2, 27⟩), (";HEIGHT: 0.5 ".toList, ⟨3, 41⟩),
      ("G0 X9".toList, ⟨4, 47⟩)]
    let st := ((⟨m, {}⟩ : Run).feedAll lines).store
    Machine.ofTools {} (Settings.toolTable {}) .orcaSlicer = .ok m ∧
      announced .orcaSlicer lines = [0.25, 0.5] ∧ (∀ t ∈ announced .orcaSlicer lines, 0.0 ≤ t) ∧
      st.segments.map Segment.layerHeight = #[0.25, 0.5] ∧ ∀ g ∈ st.segments, 0.0 ≤ g.layerHeight := by
  intro m lines st
  have hm : Machine.ofTools {} (Settings.toolTable {}) .orcaSlicer = .ok m := by rfl
  have hheights : announced .orcaSlicer lines = [0.25, 0.5] := by decide +kernel
  have hnonneg : ∀ t ∈ announced .orcaSlicer lines, 0.0 ≤ t := by decide +kernel
  have hthickness : st.segments.map Segment.layerHeight = #[0.25, 0.5] := by decide +kernel
  obtain ⟨_, hsound, _⟩ := feedAll_announced hm lines
  exact ⟨hm, hheights, hnonneg, hthickness, hsound hnonneg⟩

theorem feedAll_announced_negative :
    let m : Machine := {
      parsing := {}
      coloring := {}
      resolution := {}
      tools := Settings.toolTable {}
      classifier := { style := .orcaSlicer }
      state := .initial true ((Settings.toolTable {}).color 0) none }
    let lines : List (List Char × Stamp) :=
      [(";HEIGHT:-1".toList, ⟨1, 11⟩), ("G1 X5 E1".toList, ⟨2, 20⟩)]
    let st := ((⟨m, {}⟩ : Run).feedAll lines).store
    Machine.ofTools {} (Settings.toolTable {}) .orcaSlicer = .ok m ∧
      ∃ g ∈ st.segments, g.depositing ∧ ¬ 0.0 ≤ g.layerHeight := by
  intro m lines st
  have hm : Machine.ofTools {} (Settings.toolTable {}) .orcaSlicer = .ok m := by rfl
  have hnegative : ∃ g ∈ st.segments, g.depositing ∧ ¬ 0.0 ≤ g.layerHeight := by decide +kernel
  exact ⟨hm, hnegative⟩

end Run
end Toolpath
