import Toolpath.Proofs.Motion.Thickness
import Toolpath.Proofs.Session.Lines

/-! The thickness of what a program draws, by the layers of its index. -/

namespace Toolpath
namespace Interpretation

theorem ofText_thickness {settings : Settings} {text : List Char} {i : Interpretation}
    (h : ofText settings text = .ok i)
    (hplain : ∀ row ∈ Text.rows text, (SlicerStyle.ofProgram text).height? (Text.bare row) = none) :
    ∀ g ∈ i.store.segments,
      (∀ k l, i.store.layers[k]? = some l → l.stamp.offset < g.offset →
        (∀ l', i.store.layers[k + 1]? = some l' → g.offset ≤ l'.stamp.offset) →
        g.layerHeight = l.height - (0.0 :: i.store.heights).getD k 0.0) ∧
      ((∀ l ∈ i.store.layers, g.offset ≤ l.stamp.offset) →
        ∃ m past line, Machine.ofSettings settings (.ofProgram text) = .ok m ∧
          past ++ [line] <+: Text.stamped (Text.rows text) ∧ g.stamp = line.2 ∧
          g.layerHeight = ((⟨m, {}⟩ : Run).feedAll past).machine.clearance) := by
  obtain ⟨m, hm, hstore⟩ := exists_run_of_ofText h
  have hannounced : Run.announced (.ofProgram text) (Text.stamped (Text.rows text)) = [] := by
    refine List.filterMap_eq_nil_iff.mpr fun line hline => ?_
    obtain ⟨⟨row, hrow, heq⟩, -⟩ := Text.mem_stamped hline
    rw [← heq]
    exact hplain row hrow
  have hrising : (Text.stamped (Text.rows text)).Pairwise
      fun line line' => line.2.offset < line'.2.offset :=
    Text.pairwise_stamped fun _ => Text.ne_nil_of_mem_rows
  intro g hg
  rw [hstore] at hg ⊢
  obtain ⟨hlayer, hbed⟩ := Run.feedAll_thickness hm hrising hannounced g hg
  refine ⟨hlayer, fun hall => ?_⟩
  obtain ⟨past, line, hpast, hmarks⟩ := hbed hall
  exact ⟨m, past, line, hm, hpast, hmarks⟩

theorem ofText_thickness_two_layers :
    let text := "; OrcaSlicer\nG1 X5 Z0.25 E1\nG1 X9 Z0.75 E1\nG1 X5 E1".toList
    (∀ row ∈ Text.rows text, (SlicerStyle.ofProgram text).height? (Text.bare row) = none) ∧
      ∃ i, ofText {} text = .ok i ∧
        i.store.layers = #[⟨0.25, ⟨2, 28⟩, 0⟩, ⟨0.75, ⟨3, 43⟩, 1⟩] ∧
        i.store.segments.map Segment.offset = #[28, 43, 51] ∧
        ∀ g ∈ i.store.segments, (g.offset = 43 → g.layerHeight = 0.25 - 0.0) ∧
          (g.offset = 51 → g.layerHeight = 0.75 - 0.25) := by
  intro text
  let m : Machine := {
    parsing := {}
    coloring := {}
    resolution := {}
    tools := Settings.toolTable {}
    classifier := { style := .orcaSlicer }
    state := .initial true ((Settings.toolTable {}).color 0) none }
  have hblank : ¬ Text.isBlankLine text := by decide +kernel
  have hm : Machine.ofSettings {} (.ofProgram text) = .ok m := by rfl
  obtain ⟨i, htext, hlayers, hoffsets⟩ : ∃ i, ofText {} text = .ok i ∧
      i.store.layers = #[⟨0.25, ⟨2, 28⟩, 0⟩, ⟨0.75, ⟨3, 43⟩, 1⟩] ∧
      i.store.segments.map Segment.offset = #[28, 43, 51] :=
    ⟨_, ofText_eq_ofRun hm hblank, by decide +kernel, by decide +kernel⟩
  have hplain : ∀ row ∈ Text.rows text, (SlicerStyle.ofProgram text).height? (Text.bare row) = none := by
    decide +kernel
  have hheights : i.store.heights = [0.25, 0.75] := by
    rw [Store.heights, hlayers]
    rfl
  refine ⟨hplain, i, htext, hlayers, hoffsets, fun g hg => ?_⟩
  obtain ⟨hlayer, _⟩ := ofText_thickness htext hplain g hg
  rw [hlayers, hheights] at hlayer
  refine ⟨fun hoffset => ?_, fun hoffset => ?_⟩
  · rw [hoffset] at hlayer
    exact hlayer 0 ⟨0.25, ⟨2, 28⟩, 0⟩ rfl (by decide) fun l' hl' => by
      obtain rfl := Option.some.inj hl'
      decide
  · rw [hoffset] at hlayer
    exact hlayer 1 ⟨0.75, ⟨3, 43⟩, 1⟩ rfl (by decide) fun l' hl' => by cases hl'

theorem ofText_thickness_opener :
    let text := "G1 Z0.25\nG1 X10 E1\nG1 X20 E1\nG1 Z0.75\nG1 X10 E1\n".toList
    (∀ row ∈ Text.rows text, (SlicerStyle.ofProgram text).height? (Text.bare row) = none) ∧
      ∃ i, ofText {} text = .ok i ∧
        i.store.layers = #[⟨0.25, ⟨2, 19⟩, 1⟩, ⟨0.75, ⟨5, 48⟩, 4⟩] ∧
        ∃ g ∈ i.store.segments, g.depositing ∧ g.stamp = ⟨5, 48⟩ ∧ g.layerHeight = 0.25 ∧
          g.layerHeight ≠ 0.75 - 0.25 := by
  intro text
  let m : Machine := {
    parsing := {}
    coloring := {}
    resolution := {}
    tools := Settings.toolTable {}
    classifier := { style := .generic }
    state := .initial true ((Settings.toolTable {}).color 0) none }
  have hblank : ¬ Text.isBlankLine text := by decide +kernel
  have hm : Machine.ofSettings {} (.ofProgram text) = .ok m := by rfl
  exact ⟨by decide +kernel, _, ofText_eq_ofRun hm hblank, by decide +kernel, by decide +kernel⟩

end Interpretation
end Toolpath
