import Toolpath.Proofs.Voxel.Survey

/-! Grids of programs without cuts. Each log holds the offsets of the segments that touch its cell, and
the first of them decides from when on the cell is present. -/

namespace Toolpath
namespace Log

lemma final_upTo_iff {log : Array CellEvent} (h : ∀ e ∈ log, e.adds) (o : Nat) :
    final (upTo o log) = .present ↔ ∃ e ∈ log, e.offset ≤ o := by
  simp only [← mem_upTo]
  rw [final]
  cases hlast : (upTo o log).getLast? with
  | none =>
    rw [List.getLast?_eq_none_iff] at hlast
    simp [hlast]
  | some e =>
    have he := List.mem_of_getLast? hlast
    have hadds : e.adds := h e (mem_upTo.mp he).1
    refine iff_of_true ?_ ⟨e, he⟩
    rw [Option.any_some, if_pos hadds]

end Log

namespace VoxelGrid

variable {g : VoxelGrid} {size : CellSize} {tools : ToolTable} {segments : List Segment}
  {k : CellKey} {o : Nat}

lemma Indexed.mem_events_apply_iff (h : Indexed g) {s : Segment} {e : CellEvent} :
    e ∈ (VoxelGrid.apply tools g s).events k ↔
      e ∈ g.events k ∨ k ∈ g.reach tools s ∧ e = ⟨s.offset, (tools.get s.tool).isAdditive⟩ := by
  rw [h.events_apply]
  split
  · next hk => rw [Log.mem_record_iff, and_iff_right hk]
  · next hk => rw [or_iff_left fun hlate => hk hlate.1]

lemma mem_events_grown_iff {e : CellEvent} :
    e ∈ (grown size tools segments).events k ↔
      ∃ i s, segments[i]? = some s ∧ k ∈ footprint size tools segments i ∧
        e = ⟨s.offset, (tools.get s.tool).isAdditive⟩ := by
  induction segments using List.reverseRecOn with
  | nil => simp [grown, events, cell?]
  | append_singleton segments s ih =>
    -- the last segment touches what it reaches in the grid of those before it
    have hlast : footprint size tools (segments ++ [s]) segments.length =
        (grown size tools segments).reach tools s := footprint_length segments s
    rw [grown_concat, (indexed_grown size tools segments).mem_events_apply_iff, ih]
    constructor
    · rintro (⟨i, t, ht, hk, rfl⟩ | ⟨hk, rfl⟩)
      · obtain ⟨hi, _⟩ := List.getElem?_eq_some_iff.mp ht
        exact ⟨i, t, by rwa [List.getElem?_append_left hi], by rwa [footprint_append hi], rfl⟩
      · exact ⟨segments.length, s, List.getElem?_concat_length, by rwa [hlast], rfl⟩
    · rintro ⟨i, t, ht, hk, rfl⟩
      have hi := lt_length_of_mem_footprint hk
      rw [List.length_append, List.length_singleton] at hi
      rcases Nat.lt_succ_iff_lt_or_eq.mp hi with hi | rfl
      · rw [List.getElem?_append_left hi] at ht
        rw [footprint_append hi] at hk
        exact Or.inl ⟨i, t, ht, hk, rfl⟩
      · rw [List.getElem?_concat_length] at ht
        rw [hlast] at hk
        exact Or.inr ⟨hk, by rw [Option.some.inj ht]⟩

lemma depositing_of_mem_footprint {i : Nat} {s : Segment} (hs : segments[i]? = some s)
    (hk : k ∈ footprint size tools segments i) : s.depositing := by
  rw [footprint, hs] at hk
  by_contra htravel
  have hnone : (grown size tools (segments.take i)).reach tools s = [] :=
    if_pos (by simpa [Segment.isTravel] using htravel)
  rw [Option.map_some, Option.getD_some, hnone] at hk
  cases hk

section Additive

variable (h : Streamed segments)
  (hadd : ∀ s ∈ segments, s.depositing → (tools.get s.tool).isAdditive)

include h hadd

lemma state_grown_iff :
    (grown size tools segments).state k o = .present ↔
      ∃ i s, segments[i]? = some s ∧ k ∈ footprint size tools segments i ∧ s.offset ≤ o := by
  have hadds : ∀ e ∈ (grown size tools segments).events k, e.adds := by
    intro e he
    obtain ⟨i, s, hs, hk, rfl⟩ := mem_events_grown_iff.mp he
    exact hadd s (List.mem_of_getElem? hs) (depositing_of_mem_footprint hs hk)
  rw [(recorded_grown size tools h.ordered h.fits).state_eq, Log.final_upTo_iff hadds]
  constructor
  · rintro ⟨e, he, ho⟩
    obtain ⟨i, s, hs, hk, rfl⟩ := mem_events_grown_iff.mp he
    exact ⟨i, s, hs, hk, ho⟩
  · rintro ⟨i, s, hs, hk, ho⟩
    exact ⟨_, mem_events_grown_iff.mpr ⟨i, s, hs, hk, rfl⟩, ho⟩

lemma state_grown_first {i : Nat} {s : Segment} (hs : segments[i]? = some s)
    (hk : k ∈ footprint size tools segments i)
    (hfirst : ∀ j < i, k ∉ footprint size tools segments j) :
    (grown size tools segments).state k o = .present ↔ s.offset ≤ o := by
  rw [state_grown_iff h hadd]
  refine ⟨fun ⟨j, t, ht, hkt, ho⟩ => ?_, fun ho => ⟨i, s, hs, hk, ho⟩⟩
  rcases Nat.lt_trichotomy i j with hij | rfl | hij
  · obtain ⟨hi, rfl⟩ := List.getElem?_eq_some_iff.mp hs
    obtain ⟨hj, rfl⟩ := List.getElem?_eq_some_iff.mp ht
    exact Nat.le_trans (List.pairwise_iff_getElem.mp h.ordered i j hi hj hij) ho
  · rwa [Option.some.inj (hs.symm.trans ht)]
  · exact absurd hkt (hfirst j hij)

end Additive

lemma Indexed.state_key (h : Indexed g) {c : Cell} (hc : c ∈ g.cells) :
    g.state c.key o = c.state o := by
  rw [state, (h.cell?_eq_some_iff c.key c).mpr ⟨hc, rfl⟩]
  rfl

theorem build_additive (tools : ToolTable) {v : Settings.Voxels} {store : Store}
    (h : Streamed store.segments.toList) (hw : 0.0 < v.cellWidth) (hh : 0.0 < v.cellHeight)
    (hadd : ∀ s ∈ store.segments, s.depositing → (tools.get s.tool).isAdditive) :
    let size : CellSize := ⟨v.cellWidth, v.cellHeight⟩
    let segments := store.segments.toList
    ∃ g, (build store tools v).1 = .ok g ∧
      (∀ o o', o ≤ o' → (∀ k, g.state k o = .present → g.state k o' = .present) ∧
        (∀ c ∈ g.cells, c.state o = .present → c.state o' = .present) ∧
        g.presentCount o ≤ g.presentCount o') ∧
      (∀ o, (∀ m, store.maxOffset = some m → m ≤ o) → g.presentCount o = g.size) ∧
      ∀ c ∈ g.cells, ∃ i s, segments[i]? = some s ∧ c.key ∈ footprint size tools segments i ∧
        (∀ j < i, c.key ∉ footprint size tools segments j) ∧
        ∀ o, c.state o = .present ↔ s.offset ≤ o := by
  intro size segments
  have hadd : ∀ s ∈ segments, s.depositing → (tools.get s.tool).isAdditive :=
    fun s hs => hadd s (Array.mem_toList_iff.mp hs)
  refine ⟨_, build_eq hw hh store tools, ?_⟩
  generalize hg : (grown size tools segments).keepTranslations = g
  have hsurvey : Surveyed size tools segments g :=
    hg ▸ (surveyed_grown size tools h.ordered).keepTranslations
  have hstate (k : CellKey) (o : Nat) : g.state k o = (grown size tools segments).state k o := by
    rw [← hg, state_keepTranslations]
  have hfirst : ∀ c ∈ g.cells, ∃ i s, segments[i]? = some s ∧
      c.key ∈ footprint size tools segments i ∧
      (∀ j < i, c.key ∉ footprint size tools segments j) ∧
      ∀ o, c.state o = .present ↔ s.offset ≤ o := by
    intro c hc
    obtain ⟨i, s, hs, _, hk, hnone⟩ := hsurvey.traced.color_eq c hc
    refine ⟨i, s, hs, hk, hnone, fun o => ?_⟩
    rw [← hsurvey.indexed.state_key hc, hstate, state_grown_first h hadd hs hk hnone]
  have hcell : ∀ o o', o ≤ o' → ∀ c ∈ g.cells, c.state o = .present → c.state o' = .present := by
    intro o o' ho c hc
    obtain ⟨_, s, _, _, _, hs⟩ := hfirst c hc
    rw [hs, hs]
    exact fun hso => Nat.le_trans hso ho
  refine ⟨fun o o' ho => ⟨fun k => ?_, hcell o o' ho, ?_⟩, fun o ho => ?_, hfirst⟩
  · rw [hstate, hstate, state_grown_iff h hadd, state_grown_iff h hadd]
    rintro ⟨i, s, hs, hk, hso⟩
    exact ⟨i, s, hs, hk, Nat.le_trans hso ho⟩
  · refine Array.countP_mono_left fun c hc => ?_
    rw [beq_iff_eq, beq_iff_eq]
    exact hcell o o' ho c hc
  · refine Array.countP_eq_size.mpr fun c hc => ?_
    obtain ⟨_, s, hs, _, _, hpresent⟩ := hfirst c hc
    have hmem : s ∈ store.segments := Array.mem_toList_iff.mp (List.mem_of_getElem? hs)
    rw [beq_iff_eq, hpresent]
    exact Store.offset_le_of_maxOffset h.ordered hmem ho

theorem build_additive_dots :
    let store : Store := .ofSegments [.dot 4, .dot 4, .dot 9]
    Streamed store.segments.toList ∧
      (∀ s ∈ store.segments, s.depositing → (ToolTable.standard.get s.tool).isAdditive) ∧
      ∃ g, (build store .standard {}).1 = .ok g ∧ g.presentCount 4 ≤ g.presentCount 7 ∧
        g.presentCount 9 = g.size := by
  intro store
  have h : Streamed store.segments.toList := by decide
  have hadd : ∀ s ∈ store.segments, s.depositing → (ToolTable.standard.get s.tool).isAdditive := by
    decide
  obtain ⟨g, hg, hstays, hfull, _⟩ :=
    build_additive .standard (v := {}) h (by decide) (by decide) hadd
  refine ⟨h, hadd, g, hg, (hstays 4 7 (by decide)).2.2, hfull 9 fun m hm => ?_⟩
  have hmax : store.maxOffset = some 9 := rfl
  exact Nat.le_of_eq (Option.some.inj (hm.symm.trans hmax))

end VoxelGrid
end Toolpath
