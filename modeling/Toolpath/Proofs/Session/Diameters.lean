import Toolpath.Proofs.Session.Whole
import Toolpath.Proofs.Text.Returns

/-! Nozzle diameters. A session picks the lines that may hold them while the program arrives, and ends
with the tools that a scan of the complete program gives. -/

namespace Toolpath

def Tool.refit (t : Tool) (diameter : Option Float) : Tool :=
  { t with diameter := diameter.getD t.diameter }

namespace ToolTable

def setDiameters (t : ToolTable) (diameters : List Float) : ToolTable :=
  diameters.zipIdx.foldl (fun t d => t.setDiameter d.2 d.1) t

structure Fitted (configured : ToolTable) (diameters : List Float) (t : ToolTable) : Prop where
  tools_eq : ∀ i : Nat, t.tools[i]? = configured.tools[i]?.map (·.refit diameters[i]?)
  darker_eq : t.darker = configured.darker
  delta_eq : t.delta = configured.delta

lemma setDiameters_concat (t : ToolTable) (diameters : List Float) (d : Float) :
    t.setDiameters (diameters ++ [d]) = (t.setDiameters diameters).setDiameter diameters.length d := by
  rw [setDiameters, List.zipIdx_append, List.foldl_append, Nat.zero_add]
  rfl

lemma fitted_setDiameters (t : ToolTable) (diameters : List Float) :
    Fitted t diameters (t.setDiameters diameters) := by
  induction diameters using List.reverseRecOn with
  | nil => exact ⟨fun i => by simp [setDiameters, Tool.refit], rfl, rfl⟩
  | append_singleton diameters d ih =>
    rw [setDiameters_concat]
    refine ⟨fun i => ?_, ih.darker_eq, ih.delta_eq⟩
    rw [setDiameter, Array.getElem?_modify, ih.tools_eq]
    split
    · next h =>
      subst h
      simp [Tool.refit]
    · next h =>
      have hsame : (diameters ++ [d])[i]? = diameters[i]? := by grind
      rw [hsame]

end ToolTable

lemma Run.tools_setDiameters (r : Run) (diameters : List Float) :
    (r.setDiameters diameters).machine.tools = r.machine.tools.setDiameters diameters := rfl

namespace Reading

variable {m : Machine} {rows : List (List Char)}

lemma tools_ofRows (m : Machine) (rows : List (List Char)) :
    (ofRows m rows).run.machine.tools = m.tools := by
  induction rows using List.reverseRecOn with
  | nil => rfl
  | append_singleton rows row ih =>
    rw [ofRows_concat, read]
    dsimp only
    rw [Run.machine_feed, Machine.tools_interpret, ih]

lemma recent_ofRows (m : Machine) (rows : List (List Char)) (n : Nat) :
    ((ofRows m rows).candidates.filter fun c => n < c.1).map (·.2) =
      ((rows.map Text.bare).drop n).filter Metadata.isCandidate := by
  induction rows using List.reverseRecOn with
  | nil => simp [ofRows]
  | append_singleton rows row ih =>
    rw [ofRows_concat, read, line_ofRows, List.map_append, List.map_singleton]
    dsimp only
    rcases Nat.lt_or_ge rows.length n with hn | hn
    · -- the last row comes before the window, in which there is no row yet
      have hnone : ¬ n < rows.length + 1 := Nat.not_lt.mpr hn
      rw [List.drop_eq_nil_of_le (by simpa using Nat.le_of_lt hn)] at ih
      rw [List.drop_eq_nil_of_le (by simpa using Nat.succ_le_of_lt hn)]
      split <;> simpa [hnone] using ih
    · have hlast : n < rows.length + 1 := Nat.lt_succ_of_le hn
      rw [List.drop_append_of_le_length (by simpa using hn), List.filter_append, ← ih]
      split
      · next hc => simp [hlast, hc]
      · next hc => simp [hc]

lemma close_ofRows (m : Machine) (text : List Char) :
    (ofRows m (Text.rows text)).close =
      (ofRows m (Text.rows text)).run.setDiameters (Metadata.scanProgram text) := by
  have hlines := Text.returned_lines text
  have hlength : (Text.lines text).length = (Text.rows text).length := by
    rw [hlines.length_eq, List.length_map]
  rw [close, line_ofRows, recent_ofRows, Metadata.scan_filter, Metadata.scanProgram, hlength,
    Metadata.scan_returned (List.forall₂_drop _ hlines)]

lemma tools_close (m : Machine) (text : List Char) :
    (ofRows m (Text.rows text)).close.machine.tools =
      m.tools.setDiameters (Metadata.scanProgram text) := by
  rw [close_ofRows, Run.tools_setDiameters, tools_ofRows]

end Reading

lemma Machine.tools_ofSettings {settings : Settings} {style : SlicerStyle} {m : Machine}
    (h : ofSettings settings style = .ok m) : m.tools = settings.toolTable := by
  rw [ofSettings, ofTools] at h
  split at h
  · cases h
  · obtain rfl := Except.ok.inj h
    rfl

namespace Session

variable {settings : Settings} {m : Machine} {text : List Char} {s : Session}

lemma foldl_push (s : Session) (chunks : List (List Char)) :
    chunks.foldl push s = s.push chunks.flatten := by
  induction chunks generalizing s with
  | nil => simp [push, LineBuffer.push, Text.byteSize]
  | cons chunk chunks ih =>
    rw [List.foldl_cons, ih, List.flatten_cons]
    simp [push, LineBuffer.push, Text.byteSize_append, Nat.add_assoc]

lemma Ended.fitted (h : Ended m text s) (hm : Machine.ofSettings settings (.ofProgram text) = .ok m) :
    settings.toolTable.Fitted (Metadata.scanProgram text) s.output.tools := by
  rw [h.output_eq]
  dsimp only
  rw [Reading.tools_close, Machine.tools_ofSettings hm]
  exact ToolTable.fitted_setDiameters _ _

end Session

namespace Interpretation

open Session

theorem ofText_fitted {settings : Settings} {text : List Char} {i : Interpretation}
    (h : ofText settings text = .ok i) :
    settings.toolTable.Fitted (Metadata.scanProgram text) i.tools ∧
      (∀ chunks : List (List Char), chunks.flatten = text →
        ∃ s, (chunks.foldl push { settings }).runToEnd = (s, .ok .complete) ∧
          settings.toolTable.Fitted (Metadata.scanProgram text) s.output.tools ∧
          s.buffer.lineNumber = (Text.rows text).length) ∧
      ∀ host expected events b s, Schedule (some text) events →
        (({ settings, host, expected } : Session).afterAll events).step b = (s, .ok .complete) →
          settings.toolTable.Fitted (Metadata.scanProgram text) s.output.tools ∧
          s.buffer.lineNumber = (Text.rows text).length := by
  obtain ⟨m, s, hm, hrun, hend, rfl⟩ := exists_ended_of_ofText h
  refine ⟨hend.fitted hm, fun chunks hchunks => ?_, fun host expected events b s hs hb => ?_⟩
  · rw [foldl_push, hchunks]
    exact ⟨s, hrun, hend.fitted hm, hend.line_eq⟩
  · obtain ⟨_, hf⟩ := (follows_new settings host expected text).afterAll hs
    obtain ⟨hf, hcomplete⟩ := hf.step b
    rw [hb] at hf hcomplete
    obtain ⟨m, hm, hend⟩ := hf.exists_ended (hcomplete rfl)
    exact ⟨hend.fitted hm, hend.line_eq⟩

theorem ofText_fitted_two_tools :
    let text := "G1 X1 E1\n; nozzle_diameter = 0.6, bad, 0.8\r\n; nozzle_diameter = -1".toList
    let chunks := ["G1 X1 E1\n; nozzle_diam".toList, "eter = 0.6, bad, 0.8\r\n; nozz".toList,
      "le_diameter = -1".toList]
    Metadata.scanProgram text = [0.6, 0.8] ∧
      (∃ i, ofText {} text = .ok i ∧ i.tools.tools[1]?.map Tool.diameter = some 0.8) ∧
      ∃ s, (chunks.foldl push { settings := {} }).runToEnd = (s, .ok .complete) ∧
        s.output.tools.tools[2]?.map Tool.diameter = some 0.4 := by
  intro text chunks
  have hscan : Metadata.scanProgram text = [0.6, 0.8] := by decide +kernel
  have hblank : ¬ Text.isBlankLine text := by decide +kernel
  obtain ⟨m, hm⟩ : ∃ m, Machine.ofSettings {} (.ofProgram text) = .ok m := ⟨_, rfl⟩
  have htext := ofText_eq_ofRun hm hblank
  obtain ⟨hfitted, hchunks, _⟩ := ofText_fitted htext
  obtain ⟨s, hs, hs', _⟩ := hchunks chunks (by decide +kernel)
  refine ⟨hscan, ⟨_, htext, ?_⟩, s, hs, ?_⟩
  · rw [hfitted.tools_eq, hscan]
    decide +kernel
  · rw [hs'.tools_eq, hscan]
    decide +kernel

end Interpretation
end Toolpath
