import Toolpath.Proofs.Motion.Travels
import Toolpath.Proofs.Session.Schedule

/-! Programs with and without travels. Not to draw them leaves them out of what is drawn, and changes
nothing else. -/

namespace Toolpath
namespace Text

lemma mem_bare {c : Char} {row : List Char} (h : c ∈ row) (hc : c ≠ '\n') : c ∈ bare row := by
  unfold bare
  split
  · next hlast =>
    obtain ⟨line, rfl⟩ := List.getLast?_eq_some_iff.mp hlast
    rw [List.dropLast_concat]
    rcases List.mem_append.mp h with h | h
    · exact h
    · exact absurd (List.mem_singleton.mp h) hc
  · exact h

lemma exists_row_of_not_isBlankLine {cs : List Char} (h : ¬ isBlankLine cs) :
    ∃ row ∈ rows cs, ¬ isBlankLine (bare row) := by
  obtain ⟨c, hmem, hblank⟩ : ∃ c ∈ cs, ¬ isBlank c := by simpa [isBlankLine] using h
  rw [← flatten_rows cs] at hmem
  obtain ⟨row, hrow, hcrow⟩ := List.mem_flatten.mp hmem
  have hc : c ≠ '\n' := by
    rintro rfl
    exact hblank rfl
  refine ⟨row, hrow, fun hall => hblank ?_⟩
  exact List.all_eq_true.mp hall c (mem_bare hcrow hc)

end Text

namespace Reading

def withoutTravels (q : Reading) : Reading := { q with run := q.run.withoutTravels }

lemma covers_ofRows (m : Machine) (rows : List (List Char)) :
    (ofRows m rows).run.store.Covers := by
  refine List.foldlRecOn (motive := fun q : Reading => q.run.store.Covers) rows _
    Store.covers_empty fun q hq row _ => ?_
  exact hq.draw _ _

lemma ofRows_withoutTravels (m : Machine) (rows : List (List Char)) :
    ofRows m.withoutTravels rows = (ofRows m rows).withoutTravels := by
  induction rows using List.reverseRecOn with
  | nil =>
    unfold withoutTravels
    rw [ofRows, ofRows, List.foldl_nil, List.foldl_nil, Run.withoutTravels_new]
  | append_singleton rows row ih =>
    have hfeed := Run.feed_withoutTravels (covers_ofRows m rows) (Text.bare row)
      ⟨(ofRows m rows).stamp.line + 1, (ofRows m rows).stamp.offset + Text.byteSize row⟩
    rw [ofRows_concat, ofRows_concat, ih]
    unfold read withoutTravels
    dsimp only
    rw [hfeed]

lemma close_withoutTravels (q : Reading) : q.withoutTravels.close = q.close.withoutTravels := rfl

lemma sawContent_of_not_isBlankLine {text : List Char} (h : ¬ Text.isBlankLine text) (m : Machine) :
    (ofRows m (Text.rows text)).sawContent := by
  obtain ⟨row, hrow, hblank⟩ := Text.exists_row_of_not_isBlankLine h
  rw [sawContent_ofRows]
  exact List.any_eq_true.mpr ⟨row, hrow, by simpa using hblank⟩

end Reading

namespace Interpretation

def ofRun (r : Run) (style : SlicerStyle) : Interpretation :=
  ⟨r.store, r.machine.tools, r.machine.diagnostics, style⟩

lemma ofText_eq_ofRun {settings : Settings} {text : List Char} {m : Machine}
    (hm : Machine.ofSettings settings (.ofProgram text) = .ok m) (h : ¬ Text.isBlankLine text) :
    ofText settings text = .ok (ofRun (Reading.ofRows m (Text.rows text)).close (.ofProgram text)) := by
  obtain ⟨s, hrun, hend⟩ := Session.exists_ended hm (Reading.sawContent_of_not_isBlankLine h m)
  rw [ofText, hrun]
  exact congrArg Except.ok hend.output_eq

end Interpretation

namespace Run

structure Hides (hidden shown : Run) : Prop where
  state : hidden.machine.state = shown.machine.state
  diagnostics : hidden.machine.diagnostics = shown.machine.diagnostics
  tools : hidden.machine.tools = shown.machine.tools
  store : hidden.store.Hides shown.store

lemma hides_withoutTravels (r : Run) : r.withoutTravels.Hides r where
  state := rfl
  diagnostics := rfl
  tools := rfl
  store := r.store.hides_withoutTravels

theorem feedAll_hides {s : Settings} {tools : ToolTable} {style : SlicerStyle} {shown : Machine}
    (h : Machine.ofTools (s.withTravels true) tools style = .ok shown) :
    ∃ hidden, Machine.ofTools (s.withTravels false) tools style = .ok hidden ∧
      (∀ lines, ((⟨hidden, {}⟩ : Run).feedAll lines).Hides ((⟨shown, {}⟩ : Run).feedAll lines)) ∧
      ∀ text, ¬ Text.isBlankLine text →
        ∃ i j, Interpretation.ofText (s.withTravels false) text = .ok i ∧
          Interpretation.ofText (s.withTravels true) text = .ok j ∧
          i.store.Hides j.store ∧ i.tools = j.tools ∧ i.diagnostics = j.diagnostics ∧
          i.style = j.style := by
  refine ⟨shown.withoutTravels, ?_, fun lines => ?_, fun text htext => ?_⟩
  · rw [Machine.ofTools_withTravels, h]
    rfl
  · rw [← withoutTravels_new, feedAll_withoutTravels Store.covers_empty]
    exact hides_withoutTravels _
  · obtain ⟨m, hm⟩ : ∃ m, Machine.ofSettings (s.withTravels true) (.ofProgram text) = .ok m :=
      Machine.exists_ofTools_iff.mpr (Machine.exists_ofTools_iff.mp ⟨shown, h⟩)
    have hm' : Machine.ofSettings (s.withTravels false) (.ofProgram text) = .ok m.withoutTravels := by
      have hmap := Machine.ofTools_withTravels s s.toolTable (.ofProgram text)
      rw [Machine.ofSettings] at hm
      exact hmap.trans (congrArg (Except.map Machine.withoutTravels) hm)
    have hi := Interpretation.ofText_eq_ofRun hm' htext
    rw [Reading.ofRows_withoutTravels, Reading.close_withoutTravels] at hi
    obtain ⟨_, hdiagnostics, htools, hstore⟩ :=
      hides_withoutTravels (Reading.ofRows m (Text.rows text)).close
    exact ⟨_, _, hi, Interpretation.ofText_eq_ofRun hm htext, hstore, htools, hdiagnostics, rfl⟩

theorem feedAll_hides_two_layers :
    let shown : Machine := {
      parsing := {}
      coloring := {}
      resolution := {}
      tools := Settings.toolTable {}
      classifier := { style := .generic }
      state := .initial true ((Settings.toolTable {}).color 0) none }
    let lines : List (List Char × Stamp) := [("G0 X5".toList, ⟨1, 6⟩),
      ("G1 X10 Z0.2 E1".toList, ⟨2, 21⟩), ("G0 X0".toList, ⟨3, 27⟩),
      ("G1 X3 Z0.4 E1".toList, ⟨4, 41⟩)]
    let text := "G0 X5\nG1 X10 Z0.2 E1\nG0 X0\nG1 X3 Z0.4 E1\n".toList
    let b := (⟨shown, {}⟩ : Run).feedAll lines
    Machine.ofTools (Settings.withTravels {} true) (Settings.toolTable {}) .generic = .ok shown ∧
      b.store.layers.map Layer.firstSegment = #[1, 3] ∧ ¬ Text.isBlankLine text ∧
      ∃ hidden, Machine.ofTools (Settings.withTravels {} false) (Settings.toolTable {}) .generic =
          .ok hidden ∧
        ((⟨hidden, {}⟩ : Run).feedAll lines).Hides b ∧
        ((⟨hidden, {}⟩ : Run).feedAll lines).store.layers.map Layer.firstSegment = #[0, 1] ∧
        ∃ i, Interpretation.ofText (Settings.withTravels {} false) text = .ok i := by
  intro shown lines text b
  have h : Machine.ofTools (Settings.withTravels {} true) (Settings.toolTable {}) .generic =
      .ok shown := by rfl
  have hlayers : b.store.layers.map Layer.firstSegment = #[1, 3] := by decide +kernel
  have hcounts : b.store.layers.map (fun l => b.store.depositsBefore l.firstSegment) = #[0, 1] := by
    decide +kernel
  have htext : ¬ Text.isBlankLine text := by decide
  obtain ⟨hidden, hidden_eq, hlines, htexts⟩ := feedAll_hides h
  have hrun : ((⟨hidden, {}⟩ : Run).feedAll lines).Hides b := hlines lines
  obtain ⟨i, _, hi, _⟩ := htexts text htext
  exact ⟨h, hlayers, htext, hidden, hidden_eq, hrun, hrun.store.firstSegments.trans hcounts, i, hi⟩

end Run
end Toolpath
