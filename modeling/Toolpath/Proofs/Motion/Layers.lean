import Mathlib.Data.List.Chain
import Toolpath.Proofs.Comparison
import Toolpath.Proofs.Motion.Drawn
import Toolpath.Proofs.Motion.Rig

/-! The layers of a program. A layer is entered in the index before anything is drawn in it, by lines
that go on to deposit at its height. -/

namespace Toolpath
namespace Machine

structure Levels where
  layerHeight : Float
  previousLayerHeight : Float

def levels (m : Machine) : Levels := ⟨m.state.layerHeight, m.state.previousLayerHeight⟩

lemma unworded_levels : Unworded levels where
  codes _ _ _ _ _ _ _ := rfl
  tool _ _ := rfl
  color _ _ := rfl
  feedRate _ _ := rfl
  spindle _ _ := rfl
  diagnostics _ _ := rfl

variable {m m' : Machine} {stamp : Stamp}

/-- What a line does about layers. -/
inductive Stacked (m : Machine) (stamp : Stamp) : Machine × List Emission → Prop
  | stays {m' : Machine} {segments : List Segment} (hlevels : m'.levels = m.levels)
    (hlow : ¬ m.classifier.isSupport → (∃ s ∈ segments, s.depositing) →
      ¬ m'.state.layerHeight < m'.state.machine.z) :
    Stacked m stamp (m', segments.map .segment)
  | rises {m' : Machine} {first : Segment} {rest : List Segment}
    (hsupport : ¬ m.classifier.isSupport) (hz : m.state.layerHeight < m'.state.machine.z)
    (hlevels : m'.levels = ⟨m'.state.machine.z, m.state.layerHeight⟩)
    (hdeposit : first.depositing) (hstamp : first.stamp = stamp) :
    Stacked m stamp (m', .layer m'.state.machine.z :: (first :: rest).map .segment)

lemma Stacked.idle (hlevels : m'.levels = m.levels) : Stacked m stamp (m', []) := by
  have hstays : Stacked m stamp (m', ([] : List Segment).map .segment) :=
    .stays hlevels fun _ hsome => by simp at hsome
  exact hstays

lemma Stacked.congr {r : Machine × List Emission} (h : Stacked m' stamp r)
    (hlevels : m'.levels = m.levels) (hrig : m'.rig = m.rig) : Stacked m stamp r := by
  have hclassifier : m'.classifier = m.classifier := congrArg Rig.classifier hrig
  have hheight : m'.state.layerHeight = m.state.layerHeight := congrArg Levels.layerHeight hlevels
  cases h with
  | stays hl hlow => exact .stays (hl.trans hlevels) (hclassifier ▸ hlow)
  | rises hsupport hz hl hdeposit hstamp =>
    exact .rises (hclassifier ▸ hsupport) (hheight ▸ hz) (hheight ▸ hl) hdeposit hstamp

lemma exists_path_eq_cons (m : Machine) (k : Stroke) (start : Point) (inner : List Point)
    (target : Point) :
    ∃ stop rest, m.path k start (inner ++ [target]) = m.segment k start stop :: rest := by
  cases inner with
  | nil => exact ⟨_, _, rfl⟩
  | cons p inner => exact ⟨_, _, rfl⟩

lemma stacked_draw (m : Machine) (k : Stroke) (start : Point) (inner : List Point) :
    Stacked m k.stamp (m.draw k start (inner ++ [m.state.machine]) m.state.machine.z) := by
  unfold draw
  cases hk : k.depositing with
  | false =>
    refine .stays rfl fun _ hsome => ?_
    obtain ⟨s, hs, hdeposit⟩ := hsome
    obtain ⟨p, q, rfl⟩ := exists_of_mem_path hs
    exact absurd (hk.symm.trans hdeposit) Bool.false_ne_true
  | true =>
    dsimp only
    rw [if_pos rfl, trackLayer]
    split
    · next hrise =>
      obtain ⟨hz, hsupport⟩ := Bool.and_eq_true_iff.mp hrise
      -- the path is that of the machine on the new layer
      obtain ⟨stop, rest, hpath⟩ := exists_path_eq_cons { m with state := { m.state with
        previousLayerHeight := m.state.layerHeight, layerHeight := m.state.machine.z } } k start inner
        m.state.machine
      dsimp only
      rw [hpath]
      exact .rises (by simpa using hsupport) (of_decide_eq_true hz) rfl hk rfl
    · next hstay =>
      refine .stays rfl fun hsupport _ hz => hstay ?_
      simp [hz, hsupport]

lemma Moved.stacked {mode : MotionMode} {target : Point} {r : Machine × List Emission}
    (h : Moved m mode target stamp r) : Stacked m stamp r := by
  cases h with
  | unseen => exact .idle rfl
  | degenerate e => exact .idle rfl
  | overflow => exact .idle rfl
  | drawn depositing inner _ _ =>
    have hdraw := (m.moveTo target).stacked_draw ⟨stamp, depositing, m.segmentHeight, mode.kind⟩
      m.state.position inner
    exact hdraw.congr rfl rfl

lemma levels_setWorkplaceOffset (m : Machine) (i : Instruction) :
    (m.setWorkplaceOffset i).levels = m.levels := by
  rw [setWorkplaceOffset]
  split <;> rfl

lemma Executed.stacked {i : Instruction} {r : Machine × List Emission} (h : Executed m i stamp r) :
    Stacked m stamp r := by
  cases h with
  | offset => exact .idle (levels_setWorkplaceOffset m i)
  | home => exact .idle rfl
  | move mode machineCoords =>
    have hmoved := (moved { m with state := { m.state with mode } } i mode stamp machineCoords).stacked
    exact hmoved.congr rfl rfl
  | idle => exact .idle rfl

lemma stacked_execute (m : Machine) (i : Instruction) (stamp : Stamp) :
    Stacked m stamp (m.execute i stamp) :=
  (executed m i stamp).stacked.congr (unworded_levels.prepare m i stamp)
    (unworded_rig.prepare m i stamp)

lemma levels_annotate (m : Machine) (line : List Char) : (m.annotate line).levels = m.levels := by
  rw [annotate]
  dsimp only
  split <;> rfl

lemma Interpreted.stacked {line : List Char} {r : Machine × Drawing}
    (h : Interpreted m line stamp r) : Stacked m stamp (r.1, r.2.emissions) := by
  cases h with
  | blank _ => exact .idle rfl
  | comment _ => exact .idle (levels_annotate m _)
  | wordless _ => exact .idle rfl
  | words _ hr =>
    have hexecute := stacked_execute (m.recordAll (malformed line stamp)) (instruction line) stamp
    rw [hr] at hexecute
    exact hexecute.congr (unworded_levels.recordAll m _) (unworded_rig.recordAll m _)

end Machine

namespace Store

def heights (st : Store) : List Float := st.layers.toList.map Layer.height

structure Indexed (st : Store) : Prop where
  begins : ∀ l ∈ st.layers.toList, ∃ s, st.segments[l.firstSegment]? = some s ∧ s.depositing ∧
    s.stamp = l.stamp
  segments : st.layers.toList.Pairwise fun l l' => l.firstSegment < l'.firstSegment
  offsets : st.layers.toList.Pairwise fun l l' => l.stamp.offset < l'.stamp.offset
  heights : (0.0 :: st.heights).IsChain (· < ·)

variable {st st' : Store} {stamp : Stamp}

lemma layers_foldl_apply (st : Store) (stamp : Stamp) (segments : List Segment) :
    ((segments.map Emission.segment).foldl (apply stamp) st).layers = st.layers := by
  induction segments generalizing st with
  | nil => rfl
  | cons s segments ih => exact ih (st.push s)

lemma layers_draw_segments (st : Store) (stamp : Stamp) {d : Drawing} {segments : List Segment}
    (hd : d.emissions = segments.map .segment) : (st.draw stamp d).layers = st.layers := by
  rw [draw, hd, layers_foldl_apply]
  split <;> rfl

lemma layers_draw_layer (st : Store) (stamp : Stamp) {d : Drawing} {z : Float}
    {segments : List Segment} (hd : d.emissions = .layer z :: segments.map .segment) :
    (st.draw stamp d).layers.toList = st.layers.toList ++ [⟨z, stamp, st.size⟩] := by
  rw [draw, hd, List.foldl_cons, layers_foldl_apply, apply, pushLayer, Array.toList_push]
  split <;> rfl

lemma exists_getElem?_of_append {news : List Segment}
    (hsegments : st'.segments.toList = st.segments.toList ++ news) {i : Nat} {s : Segment}
    (h : st.segments[i]? = some s) : st'.segments[i]? = some s := by
  rw [← Array.getElem?_toList] at h ⊢
  rw [hsegments, List.getElem?_append_left (List.getElem?_eq_some_iff.mp h).1, h]

lemma Indexed.extend (h : st.Indexed) {news : List Segment} (hlayers : st'.layers = st.layers)
    (hsegments : st'.segments.toList = st.segments.toList ++ news) : st'.Indexed where
  begins l hl := by
    obtain ⟨s, hs, hmarks⟩ := h.begins l (hlayers ▸ hl)
    exact ⟨s, exists_getElem?_of_append hsegments hs, hmarks⟩
  segments := hlayers ▸ h.segments
  offsets := hlayers ▸ h.offsets
  heights := by
    rw [Store.heights, hlayers]
    exact h.heights

lemma Indexed.begin (h : st.Indexed) {z : Float} {first : Segment} {rest : List Segment}
    (hlayers : st'.layers.toList = st.layers.toList ++ [⟨z, stamp, st.size⟩])
    (hsegments : st'.segments.toList = st.segments.toList ++ first :: rest)
    (hdeposit : first.depositing) (hstamp : first.stamp = stamp)
    (hlater : ∀ l ∈ st.layers.toList, l.stamp.offset < stamp.offset)
    (hz : st.heights.getLastD 0.0 < z) : st'.Indexed where
  begins l hl := by
    rw [hlayers, List.mem_append, List.mem_singleton] at hl
    rcases hl with hl | rfl
    · obtain ⟨s, hs, hmarks⟩ := h.begins l hl
      exact ⟨s, exists_getElem?_of_append hsegments hs, hmarks⟩
    · refine ⟨first, ?_, hdeposit, hstamp⟩
      rw [← Array.getElem?_toList, hsegments]
      simp [size]
  segments := by
    rw [hlayers]
    refine List.pairwise_append.mpr ⟨h.segments, List.pairwise_singleton _ _, fun l hl l' hl' => ?_⟩
    -- earlier layers point to what is drawn already, the new one behind it
    obtain ⟨s, hs, -⟩ := h.begins l hl
    obtain rfl := List.mem_singleton.mp hl'
    exact (Array.getElem?_eq_some_iff.mp hs).1
  offsets := by
    rw [hlayers]
    refine List.pairwise_append.mpr ⟨h.offsets, List.pairwise_singleton _ _, fun l hl l' hl' => ?_⟩
    obtain rfl := List.mem_singleton.mp hl'
    exact hlater l hl
  heights := by
    rw [Store.heights, hlayers, List.map_append, ← List.cons_append]
    refine h.heights.append (List.isChain_singleton _) fun x hx y hy => ?_
    rw [List.getLast?_cons, ← List.getLastD_eq_getLast?] at hx
    obtain rfl := Option.mem_some_iff.mp hx
    obtain rfl := Option.mem_some_iff.mp hy
    exact hz

end Store

namespace Run

variable {r : Run} {stamp : Stamp} {lines : List (List Char × Stamp)}

inductive Advanced (before : Run) (stamp : Stamp) (after : Run) : Prop
  | stays {drawn : List Segment} (hlayers : after.store.layers = before.store.layers)
    (hsegments : after.store.segments.toList = before.store.segments.toList ++ drawn)
    (hlevels : after.machine.levels = before.machine.levels)
    (hlow : ¬ before.machine.classifier.isSupport → (∃ s ∈ drawn, s.depositing) →
      ¬ after.machine.state.layerHeight < after.machine.state.machine.z)
  | rises {first : Segment} {rest : List Segment}
    (hlayers : after.store.layers.toList = before.store.layers.toList ++
      [⟨after.machine.state.machine.z, stamp, before.store.size⟩])
    (hsegments : after.store.segments.toList = before.store.segments.toList ++ first :: rest)
    (hlevels : after.machine.levels =
      ⟨after.machine.state.machine.z, before.machine.state.layerHeight⟩)
    (hsupport : ¬ before.machine.classifier.isSupport)
    (hz : before.machine.state.layerHeight < after.machine.state.machine.z)
    (hdeposit : first.depositing) (hstamp : first.stamp = stamp)

lemma advanced_feed (r : Run) (line : List Char) (stamp : Stamp) :
    r.Advanced stamp (r.feed line stamp) := by
  have hstacked := (r.machine.interpreted line stamp).stacked
  have hsegments := r.store.toList_segments_draw stamp (r.machine.interpret line stamp).2
  rw [feed]
  generalize r.machine.interpret line stamp = d at *
  obtain ⟨m', isInstruction, emissions⟩ := d
  dsimp only [Drawing.segments] at hsegments hstacked ⊢
  cases hstacked with
  | stays hlevels hlow =>
    rw [Machine.filterMap_segment?_map] at hsegments
    exact .stays (r.store.layers_draw_segments stamp rfl) hsegments hlevels hlow
  | @rises _ first rest hsupport hz hlevels hdeposit hstamp =>
    rw [List.filterMap_cons_none rfl, Machine.filterMap_segment?_map] at hsegments
    exact .rises (r.store.layers_draw_layer stamp rfl) hsegments hlevels hsupport hz hdeposit hstamp

/-- The machine knows the heights of the two topmost layers of the index. -/
structure Layered (r : Run) : Prop where
  index : r.store.Indexed
  current : r.machine.state.layerHeight = r.store.heights.getLastD 0.0
  previous : r.machine.state.previousLayerHeight = r.store.heights.dropLast.getLastD 0.0

lemma Layered.advance {after : Run} (h : r.Layered) (ha : r.Advanced stamp after)
    (hlater : ∀ l ∈ r.store.layers.toList, l.stamp.offset < stamp.offset) : after.Layered := by
  cases ha with
  | stays hlayers hsegments hlevels _ =>
    have hheights : after.store.heights = r.store.heights := by
      rw [Store.heights, hlayers, Store.heights]
    obtain ⟨hcurrent, hprevious⟩ := Machine.Levels.mk.inj hlevels
    refine ⟨h.index.extend hlayers hsegments, ?_, ?_⟩
    · rw [hcurrent, hheights, h.current]
    · rw [hprevious, hheights, h.previous]
  | rises hlayers hsegments hlevels _ hz hdeposit hstamp =>
    have hheights : after.store.heights =
        r.store.heights ++ [after.machine.state.machine.z] := by
      rw [Store.heights, hlayers, List.map_append, Store.heights]
      rfl
    obtain ⟨hcurrent, hprevious⟩ := Machine.Levels.mk.inj hlevels
    rw [h.current] at hz
    refine ⟨h.index.begin hlayers hsegments hdeposit hstamp hlater hz, ?_, ?_⟩
    · rw [hcurrent, hheights, List.getLastD_concat]
    · rw [hprevious, hheights, List.dropLast_concat, h.current]

structure Begins (before after : Run) (stamp : Stamp) (begun : List Layer) : Prop where
  layers : after.store.layers.toList = before.store.layers.toList ++ begun
  length_le : begun.length ≤ 1
  stamp_eq : ∀ l ∈ begun, l.stamp = stamp
  height_eq : ∀ l ∈ begun, l.height = after.machine.state.machine.z
  support : before.machine.classifier.isSupport → begun = []
  low : ¬ before.machine.classifier.isSupport →
    (∃ s ∈ after.store.segments.toList.drop before.store.size, s.depositing) →
      ¬ after.machine.state.layerHeight < after.machine.state.machine.z

lemma Advanced.exists_begins {after : Run} (h : r.Advanced stamp after) :
    ∃ begun, r.Begins after stamp begun := by
  cases h with
  | stays hlayers hsegments _ hlow =>
    refine ⟨[], ?_, Nat.zero_le 1, List.forall_mem_nil _, List.forall_mem_nil _, fun _ => rfl, ?_⟩
    · rw [hlayers, List.append_nil]
    · rw [hsegments, Store.size, List.drop_left' Array.length_toList]
      exact hlow
  | rises hlayers _ hlevels hsupport _ _ _ =>
    refine ⟨_, hlayers, Nat.le_refl 1, ?_, ?_, fun h => absurd h hsupport, fun _ _ => ?_⟩
    · exact List.forall_mem_singleton.mpr rfl
    · exact List.forall_mem_singleton.mpr rfl
    · have hheight : after.machine.state.layerHeight = after.machine.state.machine.z :=
        congrArg Machine.Levels.layerHeight hlevels
      rw [hheight]
      exact not_lt_self _

lemma exists_layers_feedAll (r : Run) (lines : List (List Char × Stamp)) :
    ∃ begun, (r.feedAll lines).store.layers.toList = r.store.layers.toList ++ begun ∧
      ∀ l ∈ begun, ∃ line ∈ lines, l.stamp = line.2 := by
  induction lines using List.reverseRecOn with
  | nil => exact ⟨[], (List.append_nil _).symm, List.forall_mem_nil _⟩
  | append_singleton lines line ih =>
    obtain ⟨earlier, hearlier, hstamps⟩ := ih
    obtain ⟨begun, hbegun⟩ := (advanced_feed (r.feedAll lines) line.1 line.2).exists_begins
    refine ⟨earlier ++ begun, ?_, fun l hl => ?_⟩
    · rw [feedAll_concat, hbegun.layers, hearlier, List.append_assoc]
    · rcases List.mem_append.mp hl with hl | hl
      · obtain ⟨past, hpast, hstamp⟩ := hstamps l hl
        exact ⟨past, List.mem_append_left _ hpast, hstamp⟩
      · exact ⟨line, List.mem_append_right _ (List.mem_singleton_self _), hbegun.stamp_eq l hl⟩

lemma exists_stamp_eq (hr : r.store = {}) {l : Layer}
    (hl : l ∈ (r.feedAll lines).store.layers.toList) : ∃ line ∈ lines, l.stamp = line.2 := by
  obtain ⟨begun, hbegun, hstamps⟩ := r.exists_layers_feedAll lines
  rw [hbegun, hr] at hl
  exact hstamps l hl

lemma layered_ofTools {s : Settings} {tools : ToolTable} {style : SlicerStyle} {m : Machine}
    (h : Machine.ofTools s tools style = .ok m) : (⟨m, {}⟩ : Run).Layered := by
  obtain ⟨resolution, rfl⟩ := Machine.exists_of_ofTools h
  refine ⟨⟨List.forall_mem_nil _, List.Pairwise.nil, List.Pairwise.nil, List.isChain_singleton _⟩, rfl, rfl⟩

lemma Layered.feedAll (h : r.Layered) (hr : r.store = {})
    (hrising : lines.Pairwise fun line line' => line.2.offset < line'.2.offset) :
    (r.feedAll lines).Layered := by
  induction lines using List.reverseRecOn with
  | nil => exact h
  | append_singleton lines line ih =>
    obtain ⟨hpast, -, hlast⟩ := List.pairwise_append.mp hrising
    rw [feedAll_concat]
    refine (ih hpast).advance (advanced_feed _ line.1 line.2) fun l hl => ?_
    -- a layer bears the stamp of the line that began it
    obtain ⟨earlier, hearlier, hstamp⟩ := exists_stamp_eq hr hl
    rw [hstamp]
    exact hlast earlier hearlier line (List.mem_singleton_self _)

theorem feedAll_layers {s : Settings} {tools : ToolTable} {style : SlicerStyle} {m : Machine}
    (h : Machine.ofTools s tools style = .ok m) {lines : List (List Char × Stamp)}
    (hrising : lines.Pairwise fun line line' => line.2.offset < line'.2.offset) :
    let r := (⟨m, {}⟩ : Run).feedAll lines
    r.Layered ∧ ∀ line stamp, ∃ begun, r.Begins (r.feed line stamp) stamp begun := by
  intro r
  exact ⟨(layered_ofTools h).feedAll rfl hrising, fun line stamp =>
    (r.advanced_feed line stamp).exists_begins⟩

theorem feedAll_layers_support :
    let m : Machine := {
      parsing := {}
      coloring := {}
      resolution := {}
      tools := Settings.toolTable {}
      classifier := { style := .cura }
      state := .initial true ((Settings.toolTable {}).color 0) none }
    let lines : List (List Char × Stamp) := [("G0 X5".toList, ⟨1, 6⟩),
      ("G1 X9 Z0.25 E1".toList, ⟨2, 21⟩), (";TYPE:SUPPORT".toList, ⟨3, 35⟩),
      ("G1 X5 Z0.75 E1".toList, ⟨4, 50⟩), (";TYPE:FILL".toList, ⟨5, 61⟩),
      ("G1 X1 Z0.5 E1".toList, ⟨6, 75⟩)]
    let r := (⟨m, {}⟩ : Run).feedAll lines
    Machine.ofTools {} (Settings.toolTable {}) .cura = .ok m ∧
      (lines.Pairwise fun line line' => line.2.offset < line'.2.offset) ∧
      r.store.layers = #[⟨0.25, ⟨2, 21⟩, 1⟩, ⟨0.5, ⟨6, 75⟩, 3⟩] ∧ r.Layered := by
  intro m lines r
  have hm : Machine.ofTools {} (Settings.toolTable {}) .cura = .ok m := by rfl
  have hrising : lines.Pairwise fun line line' => line.2.offset < line'.2.offset := by decide
  have hlayers : r.store.layers = #[⟨0.25, ⟨2, 21⟩, 1⟩, ⟨0.5, ⟨6, 75⟩, 3⟩] := by decide +kernel
  exact ⟨hm, hrising, hlayers, (feedAll_layers hm hrising).1⟩

end Run
end Toolpath
