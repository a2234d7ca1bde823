import Mathlib.Data.List.Chain
import Mathlib.Data.List.Induction
import Mathlib.Logic.Function.Iterate
import Toolpath.Proofs.Voxel.Columns

/-! What readers of a grid rely on, after any number of segments: its index, the order of its logs, the
heights that its cells lie at, and where their colors come from. -/

namespace Toolpath
namespace Log

structure Tidy (log : Array CellEvent) : Prop where
  nonempty : log ≠ #[]
  ordered : InOrder CellEvent.offset log.toList
  distinct : log.toList.IsChain (· ≠ ·)

lemma tidy_singleton (e : CellEvent) : Tidy #[e] :=
  ⟨by simp, List.pairwise_singleton _ _, List.isChain_singleton _⟩

lemma Tidy.record {log : Array CellEvent} {e : CellEvent} (h : Tidy log)
    (he : ∀ d ∈ log, d.offset ≤ e.offset) : Tidy (Log.record log e) where
  nonempty := by
    rw [Log.record]
    split
    · exact h.nonempty
    · exact Array.push_ne_empty
  ordered := ordered_record h.ordered he
  distinct := by
    rw [Log.record]
    split
    · exact h.distinct
    · next hlast =>
      rw [Array.toList_push]
      refine h.distinct.append (List.isChain_singleton e) fun d hd f hf => ?_
      obtain rfl := Option.some.inj (hf : some e = some f)
      rintro rfl
      rw [Array.getLast?_toList] at hd
      exact hlast hd

end Log

namespace VoxelGrid

variable {g : VoxelGrid} {size : CellSize} {tools : ToolTable} {s : Segment}
  {segments : List Segment} {k : CellKey}

/-! How high the cells in reach of a segment lie. -/

lemma keyOf_nonneg (size : CellSize) (p : Point) : 0 ≤ (size.keyOf p).z := Int.le_max_left ..

lemma le_crest (size : CellSize) (points : List Point) (top : Int) : top ≤ crest size points top :=
  List.foldlRecOn (motive := fun t => top ≤ t) points _ (Int.le_refl top)
    fun _ ht _ _ => Int.le_trans ht (Int.le_max_left ..)

lemma z_le_crest {points : List Point} {p : Point} (hp : p ∈ points) (size : CellSize) (top : Int) :
    (size.keyOf p).z ≤ crest size points top := by
  induction points generalizing top with
  | nil => cases hp
  | cons q points ih =>
    rcases List.mem_cons.mp hp with rfl | hp
    · exact Int.le_trans (Int.le_max_right top _) (le_crest size points _)
    · exact ih hp _

lemma z_of_mem_downFrom {top : CellKey} {depth : Int} (hk : k ∈ downFrom top depth) :
    0 ≤ k.z ∧ k.z ≤ top.z := by
  obtain ⟨below, hbelow, rfl⟩ := List.mem_map.mp hk
  have := List.mem_range.mp hbelow
  dsimp only
  omega

lemma le_maxLayer_ready (tools : ToolTable) (g : VoxelGrid) (s : Segment) :
    g.maxLayer ≤ (g.ready tools s).maxLayer := by
  unfold ready
  dsimp only
  split
  · exact le_crest ..
  · exact Int.le_refl _

lemma z_of_mem_reach (hk : k ∈ g.reach tools s) :
    0 ≤ k.z ∧ k.z ≤ (g.ready tools s).maxLayer + 1 ∧
      ((tools.get s.tool).isAdditive → k.z ≤ (g.ready tools s).maxLayer) := by
  rw [reach] at hk
  split at hk
  · cases hk
  · next htravel =>
    have hdeposit : s.depositing := by simpa [Segment.isTravel] using htravel
    split at hk
    · next hadd =>
      obtain ⟨p, hp, hk⟩ := List.mem_flatMap.mp hk
      obtain ⟨hbed, hle⟩ := z_of_mem_downFrom hk
      have htop : (g.ready tools s).maxLayer =
          crest g.cellSize (beadPoints g.cellSize s) g.maxLayer :=
        if_pos (by rw [hdeposit, hadd]; rfl)
      have hz := Int.le_trans hle (z_le_crest hp g.cellSize g.maxLayer)
      rw [htop]
      exact ⟨hbed, Int.le_trans hz (Int.le_add_one (Int.le_refl _)), fun _ => hz⟩
    · next hsub =>
      obtain ⟨htop, p, _, _, hbottom⟩ := mem_swath_iff.mp hk
      have hraise := le_maxLayer_ready tools g s
      exact ⟨Int.le_trans (keyOf_nonneg ..) hbottom, by omega, fun hadd => absurd hadd hsub⟩

/-- Cells lie on the bed or above it. Only cuts reach above all that was added, by one layer. -/
structure Heaped (g : VoxelGrid) : Prop where
  bed_le : ∀ c ∈ g.cells, 0 ≤ c.key.z
  le_top : ∀ c ∈ g.cells, c.key.z ≤ g.maxLayer + 1
  added_le : ∀ c ∈ g.cells, (∃ e ∈ c.events, e.adds) → c.key.z ≤ g.maxLayer

/-! The runs of a grid. -/

lemma grown_concat (size : CellSize) (tools : ToolTable) (segments : List Segment) (s : Segment) :
    grown size tools (segments ++ [s]) = apply tools (grown size tools segments) s := by
  rw [grown, List.foldl_append]
  rfl

lemma maxLayer_apply (tools : ToolTable) (g : VoxelGrid) (s : Segment) :
    (apply tools g s).maxLayer = (g.ready tools s).maxLayer := by
  rw [apply_eq_touchAll, maxLayer_touchAll]

lemma cellSize_grown (size : CellSize) (tools : ToolTable) (segments : List Segment) :
    (grown size tools segments).cellSize = size :=
  List.foldlRecOn (motive := fun g : VoxelGrid => g.cellSize = size) segments _ rfl
    fun g hg s _ => by rwa [apply_eq_touchAll, cellSize_touchAll]

lemma maxLayer_grown_append (size : CellSize) (tools : ToolTable) (segments more : List Segment) :
    (grown size tools segments).maxLayer ≤ (grown size tools (segments ++ more)).maxLayer := by
  rw [grown, grown, List.foldl_append]
  refine List.foldlRecOn (motive := fun g : VoxelGrid =>
    (segments.foldl (apply tools) { cellSize := size }).maxLayer ≤ g.maxLayer) more _
    (Int.le_refl _) fun g hg s _ => Int.le_trans hg ?_
  rw [maxLayer_apply]
  exact le_maxLayer_ready tools g s

def footprint (size : CellSize) (tools : ToolTable) (segments : List Segment) (i : Nat) :
    List CellKey :=
  (segments[i]?.map ((grown size tools (segments.take i)).reach tools)).getD []

lemma footprint_append {i : Nat} (hi : i < segments.length) (more : List Segment) :
    footprint size tools (segments ++ more) i = footprint size tools segments i := by
  rw [footprint, footprint, List.getElem?_append_left hi,
    List.take_append_of_le_length (Nat.le_of_lt hi)]

lemma footprint_length (segments : List Segment) (s : Segment) :
    footprint size tools (segments ++ [s]) segments.length =
      (grown size tools segments).reach tools s := by
  rw [footprint, List.getElem?_concat_length, List.take_left]
  rfl

lemma lt_length_of_mem_footprint {i : Nat} (hk : k ∈ footprint size tools segments i) :
    i < segments.length := by
  by_contra hi
  rw [footprint, List.getElem?_eq_none (Nat.le_of_not_lt hi)] at hk
  cases hk

structure Traced (size : CellSize) (tools : ToolTable) (segments : List Segment) (g : VoxelGrid) :
    Prop where
  touched_iff : ∀ k, (∃ c ∈ g.cells, c.key = k) ↔ ∃ i, k ∈ footprint size tools segments i
  color_eq : ∀ c ∈ g.cells, ∃ i s, segments[i]? = some s ∧ c.color = s.color ∧
    c.key ∈ footprint size tools segments i ∧ ∀ j < i, c.key ∉ footprint size tools segments j

structure Surveyed (size : CellSize) (tools : ToolTable) (segments : List Segment)
    (g : VoxelGrid) : Prop where
  nodup : (g.cells.toList.map (·.key)).Nodup
  indexed : Indexed g
  tidy : ∀ c ∈ g.cells, Log.Tidy c.events
  heaped : Heaped g
  traced : Traced size tools segments g
  hasSubtractive_iff :
    g.hasSubtractive ↔ ∃ s ∈ segments, s.depositing ∧ ¬ (tools.get s.tool).isAdditive

@[simp] lemma cells_keepTranslations (g : VoxelGrid) : g.keepTranslations.cells = g.cells := rfl

@[simp] lemma state_keepTranslations (g : VoxelGrid) (k : CellKey) (o : Nat) :
    g.keepTranslations.state k o = g.state k o := rfl

lemma Surveyed.keepTranslations (h : Surveyed size tools segments g) :
    Surveyed size tools segments g.keepTranslations where
  nodup := h.nodup
  indexed := h.indexed
  tidy := h.tidy
  heaped := ⟨h.heaped.bed_le, h.heaped.le_top, h.heaped.added_le⟩
  traced := ⟨h.traced.touched_iff, h.traced.color_eq⟩
  hasSubtractive_iff := h.hasSubtractive_iff

namespace Indexed

lemma apply (h : Indexed g) (tools : ToolTable) (s : Segment) : Indexed (apply tools g s) := by
  rw [apply_eq_touchAll]
  exact (h.congr rfl rfl : Indexed (g.ready tools s)).touchAll _ _ _

lemma touched_apply (h : Indexed g) {c : Cell} (hc : c ∈ (VoxelGrid.apply tools g s).cells) :
    Touched ⟨s.offset, (tools.get s.tool).isAdditive⟩ s.color g (g.reach tools s) c := by
  rw [apply_eq_touchAll] at hc
  have hready : Indexed (g.ready tools s) := h.congr rfl rfl
  cases hready.touched hc with
  | kept hold => exact .kept hold
  | logged hold hk => exact .logged hold hk
  | founded hk hnew => exact .founded hk hnew

lemma exists_key_apply_iff (h : Indexed g) :
    (∃ c ∈ (VoxelGrid.apply tools g s).cells, c.key = k) ↔
      k ∈ g.reach tools s ∨ ∃ c ∈ g.cells, c.key = k := by
  have hready : Indexed (g.ready tools s) := h.congr rfl rfl
  have hsame : (g.ready tools s).cell? k = g.cell? k := rfl
  have hcell := hready.cell?_touchAll ⟨s.offset, (tools.get s.tool).isAdditive⟩ s.color
    (g.reach tools s) k
  rw [← apply_eq_touchAll, hsame] at hcell
  simp only [← (h.apply tools s).cell?_eq_some_iff, ← h.cell?_eq_some_iff, hcell]
  split
  · next hk => simp [hk]
  · next hk => simp [hk]

lemma heaped_apply (h : Indexed g) (hg : Heaped g) (tools : ToolTable) (s : Segment) :
    Heaped (VoxelGrid.apply tools g s) := by
  have hraise := le_maxLayer_ready tools g s
  constructor
  · intro c hc
    cases h.touched_apply hc with
    | kept hold => exact hg.bed_le c hold
    | logged hold _ => rw [Cell.key_record]; exact hg.bed_le _ hold
    | founded hk _ => exact (z_of_mem_reach hk).1
  · intro c hc
    rw [maxLayer_apply]
    cases h.touched_apply hc with
    | kept hold => exact Int.le_trans (hg.le_top c hold) (Int.add_le_add_right hraise 1)
    | logged _ hk => rw [Cell.key_record]; exact (z_of_mem_reach hk).2.1
    | founded hk _ => exact (z_of_mem_reach hk).2.1
  · intro c hc hadds
    rw [maxLayer_apply]
    cases h.touched_apply hc with
    | kept hold => exact Int.le_trans (hg.added_le c hold hadds) hraise
    | logged hold hk =>
      rw [Cell.key_record]
      obtain ⟨e, he, hadd⟩ := hadds
      rw [Cell.events_record] at he
      rcases Log.mem_record he with he | rfl
      · exact Int.le_trans (hg.added_le _ hold ⟨e, he, hadd⟩) hraise
      · exact (z_of_mem_reach hk).2.2 hadd
    | founded hk _ =>
      obtain ⟨e, he, hadd⟩ := hadds
      obtain rfl := Array.mem_singleton.mp he
      exact (z_of_mem_reach hk).2.2 hadd

lemma tidy_apply (h : Indexed g) (hg : ∀ c ∈ g.cells, Log.Tidy c.events)
    (hpast : ∀ c ∈ g.cells, ∀ e ∈ c.events, e.offset ≤ s.offset) :
    ∀ c ∈ (VoxelGrid.apply tools g s).cells, Log.Tidy c.events := by
  intro c hc
  cases h.touched_apply hc with
  | kept hold => exact hg c hold
  | logged hold _ => rw [Cell.events_record]; exact (hg _ hold).record (hpast _ hold)
  | founded _ _ => exact Log.tidy_singleton _

lemma traced_apply (h : Indexed g) (hg : Traced size tools segments g)
    (hgrown : g = grown size tools segments) (s : Segment) :
    Traced size tools (segments ++ [s]) (VoxelGrid.apply tools g s) := by
  have hlast : footprint size tools (segments ++ [s]) segments.length = g.reach tools s := by
    rw [footprint_length, hgrown]
  have hearlier {i : Nat} (hi : i < segments.length) :
      footprint size tools (segments ++ [s]) i = footprint size tools segments i :=
    footprint_append hi [s]
  have hfirst {c : Cell} (hc : c ∈ g.cells) : ∃ i t, (segments ++ [s])[i]? = some t ∧
      c.color = t.color ∧ c.key ∈ footprint size tools (segments ++ [s]) i ∧
        ∀ j < i, c.key ∉ footprint size tools (segments ++ [s]) j := by
    obtain ⟨i, t, ht, hcolor, hmem, hnone⟩ := hg.color_eq c hc
    obtain ⟨hi, _⟩ := List.getElem?_eq_some_iff.mp ht
    refine ⟨i, t, by rwa [List.getElem?_append_left hi], hcolor, by rwa [hearlier hi], fun j hj => ?_⟩
    rw [hearlier (Nat.lt_trans hj hi)]
    exact hnone j hj
  constructor
  · intro k
    rw [h.exists_key_apply_iff, hg.touched_iff]
    constructor
    · rintro (hk | ⟨i, hk⟩)
      · exact ⟨segments.length, by rwa [hlast]⟩
      · exact ⟨i, by rwa [hearlier (lt_length_of_mem_footprint hk)]⟩
    · rintro ⟨i, hk⟩
      have hi := lt_length_of_mem_footprint hk
      rw [List.length_append, List.length_singleton] at hi
      rcases Nat.lt_succ_iff_lt_or_eq.mp hi with hi | rfl
      · exact Or.inr ⟨i, by rwa [hearlier hi] at hk⟩
      · exact Or.inl (by rwa [hlast] at hk)
  · intro c hc
    cases h.touched_apply hc with
    | kept hold => exact hfirst hold
    | logged hold _ => rw [Cell.color_record, Cell.key_record]; exact hfirst hold
    | @founded k hk hnew =>
      refine ⟨segments.length, s, List.getElem?_concat_length, rfl, by rwa [hlast], fun j hj hk' => ?_⟩
      -- had an earlier segment touched the cell, it would be there
      rw [hearlier hj] at hk'
      obtain ⟨old, hmem, rfl⟩ := (hg.touched_iff k).mpr ⟨j, hk'⟩
      rw [(h.cell?_eq_some_iff _ old).mpr ⟨hmem, rfl⟩] at hnew
      cases hnew

end Indexed

lemma indexed_grown (size : CellSize) (tools : ToolTable) (segments : List Segment) :
    Indexed (grown size tools segments) :=
  List.foldlRecOn (motive := Indexed) segments _ (indexed_empty size) fun _ hg s _ => hg.apply tools s

lemma surveyed_grown (size : CellSize) (tools : ToolTable)
    (h : InOrder Segment.offset segments) :
    Surveyed size tools segments (grown size tools segments) := by
  induction segments using List.reverseRecOn with
  | nil =>
    have hcells (c : Cell) : c ∉ (grown size tools []).cells := Array.not_mem_empty c
    exact {
      nodup := List.nodup_nil
      indexed := indexed_empty size
      tidy c hc := absurd hc (hcells c)
      heaped := ⟨fun c hc => absurd hc (hcells c), fun c hc => absurd hc (hcells c),
        fun c hc => absurd hc (hcells c)⟩
      traced := {
        touched_iff k := iff_of_false (fun ⟨c, hc, _⟩ => hcells c hc)
          fun ⟨i, hk⟩ => absurd (lt_length_of_mem_footprint hk) (Nat.not_lt_zero i)
        color_eq c hc := absurd hc (hcells c) }
      hasSubtractive_iff := iff_of_false Bool.false_ne_true (by simp) }
  | append_singleton segments s ih =>
    obtain ⟨hsegments, _, hlast⟩ := List.pairwise_append.mp h
    have hg := ih hsegments
    have htop : ∀ t ∈ segments, t.offset ≤ s.offset :=
      fun t ht => hlast t ht s (List.mem_singleton_self s)
    -- no event comes later, so that of the new segment goes to the end of a log
    have hpast : ∀ c ∈ (grown size tools segments).cells, ∀ e ∈ c.events, e.offset ≤ s.offset := by
      intro c hc e he
      have hcell := (hg.indexed.cell?_eq_some_iff c.key c).mpr ⟨hc, rfl⟩
      refine (recorded_grown size tools hsegments htop).past c.key e ?_
      rw [events, hcell]
      exact he
    rw [grown_concat]
    exact {
      nodup := (hg.indexed.apply tools s).nodup_keys
      indexed := hg.indexed.apply tools s
      tidy := hg.indexed.tidy_apply hg.tidy hpast
      heaped := hg.indexed.heaped_apply hg.heaped tools s
      traced := hg.indexed.traced_apply hg.traced rfl s
      hasSubtractive_iff := by
        have hcuts : cuts tools s ↔ s.depositing ∧ ¬ (tools.get s.tool).isAdditive := by simp [cuts]
        rw [apply_eq_touchAll, hasSubtractive_touchAll, ready, Bool.or_eq_true, hcuts,
          hg.hasSubtractive_iff]
        simp [or_and_right, exists_or] }

/-! Instances. -/

def asked (g : VoxelGrid) (n : Nat) : VoxelGrid := (fun g : VoxelGrid => g.instances.1)^[n] g

lemma asked_succ (g : VoxelGrid) (n : Nat) : g.asked (n + 1) = (g.asked n).instances.1 :=
  Function.iterate_succ_apply' _ n g

lemma exists_asked_eq (g : VoxelGrid) (n : Nat) :
    ∃ kept, (kept = g.translations ∨ kept = none) ∧ g.asked n = { g with translations := kept } := by
  induction n with
  | zero => exact ⟨g.translations, Or.inl rfl, rfl⟩
  | succ n ih =>
    obtain ⟨kept, hkept, heq⟩ := ih
    rw [asked_succ, heq, instances]
    dsimp only
    split
    · exact ⟨kept, hkept, rfl⟩
    · exact ⟨none, Or.inr rfl, rfl⟩

lemma retainsTranslations_asked (h : g.retainsTranslations) (n : Nat) :
    (g.asked n).retainsTranslations ↔ n = 0 ∨ g.hasSubtractive := by
  induction n with
  | zero => exact iff_of_true h (Or.inl rfl)
  | succ n ih =>
    obtain ⟨kept, _, heq⟩ := g.exists_asked_eq n
    have hsame : (g.asked n).hasSubtractive = g.hasSubtractive := by rw [heq]
    rw [asked_succ, instances]
    dsimp only
    rw [hsame]
    split
    · next hcut => exact iff_of_true (ih.mpr (Or.inr hcut)) (Or.inr hcut)
    · next hcut => simp [retainsTranslations, hcut]

lemma translations_asked (h : g.translations = some g.centers) (n : Nat) :
    (g.asked n).instances.2.translations = g.centers := by
  obtain ⟨kept, hkept, heq⟩ := g.exists_asked_eq n
  rw [heq]
  rcases hkept with rfl | rfl
  · exact congrArg (Option.getD · g.centers) h
  · rfl

theorem build_surveyed (tools : ToolTable) {v : Settings.Voxels} {store : Store}
    (h : Streamed store.segments.toList) (hw : 0.0 < v.cellWidth) (hh : 0.0 < v.cellHeight) :
    let size : CellSize := ⟨v.cellWidth, v.cellHeight⟩
    let done := fun n => store.segments.toList.take n
    (∀ n, Surveyed size tools (done n) (grown size tools (done n))) ∧
      (∀ n k, n ≤ k →
        (grown size tools (done n)).maxLayer ≤ (grown size tools (done k)).maxLayer) ∧
      ∃ g, (build store tools v).1 = .ok g ∧ Surveyed size tools store.segments.toList g ∧
        ∀ n, (g.asked n).instances.2.translations = g.cells.map (fun c => size.center c.key) ∧
          (g.asked n).cells = g.cells ∧ (g.asked n).index = g.index ∧
          (g.asked n).maxLayer = g.maxLayer ∧ (g.asked n).hasSubtractive = g.hasSubtractive ∧
          ((g.asked n).retainsTranslations ↔ n = 0 ∨ g.hasSubtractive) := by
  intro size done
  have hdone (n : Nat) : InOrder Segment.offset (done n) := h.ordered.sublist (List.take_sublist ..)
  refine ⟨fun n => surveyed_grown size tools (hdone n), fun n k hnk => ?_,
    _, build_eq hw hh store tools, ?_, fun n => ?_⟩
  · have hsplit : done k = done n ++ (done k).drop n := by
      have htake : (done k).take n = done n := by
        rw [List.take_take, Nat.min_eq_left hnk]
      rw [← htake, List.take_append_drop]
    rw [hsplit]
    exact maxLayer_grown_append size tools (done n) _
  · exact (surveyed_grown size tools h.ordered).keepTranslations
  · generalize hg : (grown size tools store.segments.toList).keepTranslations = g
    have hkept : g.translations = some g.centers := by rw [← hg]; rfl
    have hsize : g.cellSize = size := by
      rw [← hg]
      exact cellSize_grown size tools _
    have htranslations := translations_asked hkept n
    rw [centers, hsize] at htranslations
    have hretained := retainsTranslations_asked (g := g) (by rw [retainsTranslations, hkept]; rfl) n
    obtain ⟨kept, _, heq⟩ := g.exists_asked_eq n
    exact ⟨htranslations, by rw [heq], by rw [heq], by rw [heq], by rw [heq], hretained⟩

theorem build_surveyed_mill :
    let mill : Tool := ⟨"Mill", .black, 0.4, .subtractive⟩
    let tools : ToolTable := .ofList [.standard, mill] 0.1
    let store : Store := .ofSegments [.dot 4, { Segment.dot 9 with tool := 1, color := .black }]
    Streamed store.segments.toList ∧
      ∃ g, (build store tools {}).1 = .ok g ∧ g.hasSubtractive ∧
        (∃ c ∈ g.cells, c.key = ⟨0, 0, 0⟩ ∧ Log.Tidy c.events) ∧ (g.asked 2).retainsTranslations ∧
        (g.asked 2).instances.2.translations =
          g.cells.map fun c => CellSize.center ⟨1.0, 1.0⟩ c.key := by
  intro mill tools store
  have h : Streamed store.segments.toList := by decide
  have hcut : ∃ s ∈ store.segments.toList, s.depositing ∧ ¬ (tools.get s.tool).isAdditive :=
    ⟨{ Segment.dot 9 with tool := 1, color := .black }, by decide, by decide, by decide⟩
  have hkey : ⟨0, 0, 0⟩ ∈ footprint ⟨1.0, 1.0⟩ tools store.segments.toList 0 := by decide +kernel
  obtain ⟨_, _, g, hg, hsurvey, hinstances⟩ :=
    build_surveyed tools (v := {}) h (by decide) (by decide)
  obtain ⟨htranslations, _, _, _, _, hretained⟩ := hinstances 2
  have hsub := hsurvey.hasSubtractive_iff.mpr hcut
  obtain ⟨c, hc, hk⟩ := (hsurvey.traced.touched_iff _).mpr ⟨0, hkey⟩
  exact ⟨h, g, hg, hsub, ⟨c, hc, hk, hsurvey.tidy c hc⟩, hretained.mpr (Or.inr hsub),
    htranslations⟩

end VoxelGrid
end Toolpath
