import Toolpath.Proofs.Motion.Layers
import Toolpath.Proofs.Playback.Slice
import Toolpath.Proofs.Segment.Batches
import Toolpath.Proofs.Session.Timeline
import Toolpath.Proofs.Session.Whole
import Toolpath.Summary

/-! What is told about a cursor. The players count, and the store locates, the same segments, and the
layer that is told has begun among them. -/

namespace Toolpath
namespace Playback

lemma revealed_advance (p : Playback) (x : Nat) : (p.advance x).1.revealed = p.partition x := by
  rcases p.advance_cases x with h | h <;> rw [h]
  · exact p.revealed_fullPass x
  · exact p.revealed_incremental x

lemma partition_ofSegments (settings : Settings) (tools : ToolTable) {segments : List Segment}
    (h : InOrder Segment.offset segments) (x : Nat) :
    (ofSegments settings tools segments).partition x = segments.countP (·.offset ≤ x) := by
  have hclips : InOrder Clip.offset (ofSegments settings tools segments).clips.toList := by
    simpa [ofSegments, ofClips, InOrder, List.pairwise_map] using! h
  rw [partition_eq hclips, ofSegments, ofClips, List.countP_toArray, List.countP_map]
  rfl

end Playback

namespace BatchedPlayback

lemma revealed_advance_ofStore (settings : Settings) (tools : ToolTable) {store : Store}
    (h : InOrder Segment.offset store.segments.toList) (x : Nat) :
    ((ofStore settings tools store).advance x).1.revealed =
      store.segments.countP (·.offset ≤ x) := by
  rw [advance_fst, revealed, Array.foldl_map, ← Array.foldl_toList, ← Array.countP_toList,
    ← Nat.zero_add (List.countP _ _)]
  -- every batch counts its own segments
  apply foldl_slices
  · intro j b hb
    rw [Array.getElem?_toList, getElem?_batches_ofStore] at hb
    split at hb
    · obtain rfl := Option.some.inj hb
      rw [Playback.revealed_advance]
      exact Playback.partition_ofSegments settings tools
        (h.sublist ((List.take_sublist ..).trans (List.drop_sublist ..))) x
    · cases hb
  · rw [Array.length_toList, Array.length_toList]
    exact size_le_batches_ofStore settings tools store

end BatchedPlayback

namespace Store

def entered (st : Store) (o : Nat) : List Layer := st.layers.toList.filter (·.stamp.offset ≤ o)

variable {st : Store}

lemma partition_eq (h : InOrder Segment.offset st.segments.toList) (o : Nat) :
    st.partition o = st.segments.countP (·.offset ≤ o) :=
  partitionPoint_eq_countP (h.leads o)

lemma lt_partition_iff (h : InOrder Segment.offset st.segments.toList) {i : Nat} {s : Segment}
    (hs : st.segments[i]? = some s) (o : Nat) : i < st.partition o ↔ s.offset ≤ o := by
  rw [partition_eq h, (h.leads o).lt_countP_iff hs, decide_eq_true_iff]

lemma locate_cases (h : InOrder Segment.offset st.segments.toList) (o : Nat) :
    (st.partition o = 0 ∧ st.locate o = none) ∨
      ∃ k s, st.partition o = k + 1 ∧ st.segments[k]? = some s ∧
        st.locate o = some ⟨s.stamp.line, s.stop, k⟩ := by
  rw [locate]
  cases hk : st.partition o with
  | zero => exact Or.inl ⟨rfl, rfl⟩
  | succ k =>
    have hsize : k + 1 ≤ st.segments.size := by
      rw [← hk, partition_eq h]
      exact Array.countP_le_size
    rw [Nat.succ_le_iff] at hsize
    exact Or.inr ⟨k, st.segments[k], rfl, by simp [hsize], by simp [hsize]⟩

lemma mem_entered_iff {l : Layer} {o : Nat} :
    l ∈ st.entered o ↔ l ∈ st.layers ∧ l.stamp.offset ≤ o := by
  rw [entered, List.mem_filter, Array.mem_toList_iff, decide_eq_true_iff]

namespace Indexed

lemma layerAt_eq (h : st.Indexed) (o : Nat) : st.layerAt o = (st.entered o).getLast? := by
  have hordered : InOrder (·.stamp.offset) st.layers.toList := h.offsets.imp Nat.le_of_lt
  exact (hordered.leads o).getLast?_filter.symm

lemma firstSegment_lt (h : st.Indexed) (ho : InOrder Segment.offset st.segments.toList) {l : Layer}
    {o : Nat} (hl : l ∈ st.entered o) : l.firstSegment < st.partition o := by
  obtain ⟨hmem, hle⟩ := mem_entered_iff.mp hl
  obtain ⟨s, hs, -, hstamp⟩ := h.begins l (Array.mem_toList_iff.mpr hmem)
  rw [lt_partition_iff ho hs, Segment.offset, hstamp]
  exact hle

end Indexed
end Store

namespace Reading

lemma layered_ofRows {settings : Settings} {style : SlicerStyle} {m : Machine}
    (h : Machine.ofSettings settings style = .ok m) {rows : List (List Char)}
    (hne : ∀ row ∈ rows, row ≠ []) : (ofRows m rows).run.Layered := by
  induction rows using List.reverseRecOn with
  | nil => exact Run.layered_ofTools h
  | append_singleton rows row ih =>
    have hrow : row ≠ [] := hne row (List.mem_append_right _ (List.mem_singleton_self row))
    have hpast : ∀ past ∈ rows, past ≠ [] := fun past hp => hne past (List.mem_append_left _ hp)
    rw [ofRows_concat, read, stamp_ofRows, ← Stamp.behind_concat]
    dsimp only
    -- no row is empty, so this line ends behind all those that began a layer
    refine (ih hpast).advance (Run.advanced_feed ..) fun l hl => ?_
    calc l.stamp.offset ≤ (Stamp.behind rows).offset :=
          ((dated_ofRows m rows).layers l (Array.mem_toList_iff.mp hl)).offset_le
      _ < (Stamp.behind (rows ++ [row])).offset := by
          rw [Stamp.behind_concat]
          exact Nat.lt_add_of_pos_right (Text.byteSize_pos hrow)

end Reading

namespace CursorReport

structure Tells (st : Store) (o : Nat) (report : CursorReport) : Prop where
  offset_eq : report.offset = o
  revealed_eq : report.revealed = st.segments.countP (·.offset ≤ o)
  lt_revealed_iff : ∀ i s, st.segments[i]? = some s → (i < report.revealed ↔ s.offset ≤ o)
  place : (report.revealed = 0 ∧ report.line = none ∧ report.position = none) ∨
    ∃ k s, report.revealed = k + 1 ∧ st.segments[k]? = some s ∧
      report.line = some s.stamp.line ∧ report.position = some s.stop
  layer : ((∀ l ∈ st.layers, o < l.stamp.offset) ∧ report.layerHeight = none) ∨
    ∃ l, (st.entered o).getLast? = some l ∧ report.layerHeight = some l.height ∧
      l.firstSegment < report.revealed

variable {p : Interpretation}

lemma ofProgram_eq (hindex : p.store.Indexed) (h : InOrder Segment.offset p.store.segments.toList)
    (settings : Settings) (o : Nat) :
    ofProgram p settings o = {
      offset := o
      revealed := p.store.partition o
      line := (p.store.locate o).map (·.line)
      position := (p.store.locate o).map (·.position)
      layerHeight := (p.store.entered o).getLast?.map (·.height) } := by
  rw [ofProgram, BatchedPlayback.revealed_advance_ofStore settings p.tools h,
    ← Store.partition_eq h, hindex.layerAt_eq]

lemma tells_ofProgram (hindex : p.store.Indexed)
    (h : InOrder Segment.offset p.store.segments.toList) (settings : Settings) (o : Nat) :
    (ofProgram p settings o).Tells p.store o := by
  rw [ofProgram_eq hindex h]
  refine ⟨rfl, Store.partition_eq h o, fun i s hs => Store.lt_partition_iff h hs o, ?_, ?_⟩
  · obtain ⟨hzero, hplace⟩ | ⟨k, s, hk, hs, hplace⟩ := Store.locate_cases h o
    · exact Or.inl ⟨hzero, by rw [hplace]; rfl, by rw [hplace]; rfl⟩
    · exact Or.inr ⟨k, s, hk, hs, by rw [hplace]; rfl, by rw [hplace]; rfl⟩
  · cases hlast : (p.store.entered o).getLast? with
    | none =>
      refine Or.inl ⟨fun l hl => ?_, rfl⟩
      by_contra hle
      have hmem := Store.mem_entered_iff.mpr ⟨hl, Nat.not_lt.mp hle⟩
      rw [List.getLast?_eq_none_iff.mp hlast] at hmem
      cases hmem
    | some l => exact Or.inr ⟨l, rfl, rfl, hindex.firstSegment_lt h (List.mem_of_getLast? hlast)⟩

theorem ofProgram_tells {settings : Settings} {text : List Char} {i : Interpretation}
    (h : Interpretation.ofText settings text = .ok i) (shown : Settings) (o : Nat) :
    (ofProgram i shown o).Tells i.store o := by
  obtain ⟨m, s, hm, -, hend, rfl⟩ := Interpretation.exists_ended_of_ofText h
  have hstore : s.output.store = (Reading.ofRows m (Text.rows text)).run.store := by
    rw [hend.output_eq]
    rfl
  have hindex : s.output.store.Indexed := by
    rw [hstore]
    exact (Reading.layered_ofRows hm fun _ => Text.ne_nil_of_mem_rows).index
  have horder : InOrder Segment.offset s.output.store.segments.toList := by
    rw [hstore]
    exact (Reading.dated_ofRows m (Text.rows text)).orderly.inOrder
  exact tells_ofProgram hindex horder shown o

theorem ofProgram_tells_second_layer :
    let text := "G1 X1 Z0.25 E1\nG1 X2 E1\nG1 X3 Z0.5 E1\nG0 X4".toList
    let shown : Settings := { playback := { batchSize := 2 } }
    ∃ i, Interpretation.ofText {} text = .ok i ∧
      ofProgram i shown 14 = ⟨14, 0, none, none, none⟩ ∧
      ofProgram i shown 30 = ⟨30, 2, some 2, some ⟨2.0, 0.0, 0.25⟩, some 0.25⟩ ∧
      ofProgram i shown 40 = ⟨40, 3, some 3, some ⟨3.0, 0.0, 0.5⟩, some 0.5⟩ ∧
      ∀ o, (ofProgram i shown o).Tells i.store o := by
  intro text shown
  let m : Machine := {
    parsing := {}
    coloring := {}
    resolution := {}
    tools := Settings.toolTable {}
    classifier := { style := .generic }
    state := .initial true ((Settings.toolTable {}).color 0) none }
  have hblank : ¬ Text.isBlankLine text := by decide +kernel
  have hm : Machine.ofSettings {} (.ofProgram text) = .ok m := by rfl
  have htext := Interpretation.ofText_eq_ofRun hm hblank
  refine ⟨_, htext, ?_, ?_, ?_, ofProgram_tells htext shown⟩
  · decide +kernel
  · decide +kernel
  · decide +kernel

end CursorReport
end Toolpath
