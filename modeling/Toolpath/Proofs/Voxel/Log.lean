import Mathlib.Data.List.Basic
import Mathlib.Data.List.Nodup
import Mathlib.Data.List.Perm.Basic
import Toolpath.Proofs.Bisect
import Toolpath.Voxel.Build

/-! The logs of a grid, cell by cell: a touch changes one of them, by one event at its end. -/

namespace Toolpath
namespace Log

def record (log : Array CellEvent) (e : CellEvent) : Array CellEvent :=
  if log.back? = some e then log else log.push e

def final (log : List CellEvent) : CellState :=
  if log.getLast?.any (·.adds) then .present else .absent

def upTo (o : Nat) (log : Array CellEvent) : List CellEvent :=
  log.toList.filter fun e => e.offset ≤ o

lemma mem_upTo {o : Nat} {log : Array CellEvent} {e : CellEvent} :
    e ∈ upTo o log ↔ e ∈ log ∧ e.offset ≤ o := by
  rw [upTo, List.mem_filter, Array.mem_toList_iff, decide_eq_true_iff]

lemma mem_record_iff {log : Array CellEvent} {e d : CellEvent} :
    d ∈ record log e ↔ d ∈ log ∨ d = e := by
  rw [record]
  split
  · next hlast =>
    refine ⟨Or.inl, fun hd => ?_⟩
    rcases hd with hd | rfl
    · exact hd
    · exact Array.mem_of_back? hlast
  · exact Array.mem_push

lemma mem_record {log : Array CellEvent} {e d : CellEvent} (h : d ∈ record log e) :
    d ∈ log ∨ d = e := mem_record_iff.mp h

lemma ordered_record {log : Array CellEvent} {e : CellEvent}
    (h : InOrder CellEvent.offset log.toList) (he : ∀ d ∈ log, d.offset ≤ e.offset) :
    InOrder CellEvent.offset (record log e).toList := by
  rw [record]
  split
  · exact h
  · rw [Array.toList_push]
    refine List.pairwise_append.mpr ⟨h, List.pairwise_singleton .., ?_⟩
    intro d hd f hf
    obtain rfl := List.mem_singleton.mp hf
    exact he d (Array.mem_toList_iff.mp hd)

lemma upTo_record {o : Nat} {log : Array CellEvent} {e : CellEvent} (he : o < e.offset) :
    upTo o (record log e) = upTo o log := by
  rw [record]
  split
  · rfl
  · simp [upTo, Nat.not_le.mpr he]

lemma upTo_eq_self {o : Nat} {log : Array CellEvent} (h : ∀ e ∈ log, e.offset ≤ o) :
    upTo o log = log.toList := by
  rw [upTo, List.filter_eq_self]
  intro e he
  exact decide_eq_true (h e (Array.mem_toList_iff.mp he))

end Log

namespace Cell

@[simp] lemma key_record (e : CellEvent) (c : Cell) : (c.record e).key = c.key := by
  rw [record]
  split <;> rfl

@[simp] lemma events_record (e : CellEvent) (c : Cell) :
    (c.record e).events = Log.record c.events e := by
  rw [record, Log.record]
  split <;> rfl

lemma lastEvent?_eq {c : Cell} (h : InOrder CellEvent.offset c.events.toList) (o : Nat) :
    c.lastEvent? o = (Log.upTo o c.events).getLast? :=
  (h.leads o).getLast?_filter.symm

lemma state_eq {c : Cell} (h : InOrder CellEvent.offset c.events.toList) (o : Nat) :
    c.state o = Log.final (Log.upTo o c.events) := by
  rw [state, Log.final, lastEvent?_eq h]

end Cell

namespace VoxelGrid

def Indexed (g : VoxelGrid) : Prop :=
  ∀ (k : CellKey) (i : Nat), g.index[k]? = some i ↔ ∃ c : Cell, g.cells[i]? = some c ∧ c.key = k

variable {g : VoxelGrid}

lemma touch_old {k : CellKey} {i : Nat} (hk : g.index[k]? = some i) (e : CellEvent) (color : Color) :
    touch e color g k = { g with cells := g.cells.modify i (Cell.record e) } := by
  rw [touch, hk]

lemma touch_new {k : CellKey} (hk : g.index[k]? = none) (e : CellEvent) (color : Color) :
    touch e color g k =
      { g with
        index := g.index.insert k g.cells.size
        cells := g.cells.push ⟨k, color, #[e]⟩ } := by
  rw [touch, hk]

lemma indexed_empty (size : CellSize) : Indexed { cellSize := size } := by
  intro k i
  simp

namespace Indexed

lemma getElem?_cells (h : Indexed g) {k : CellKey} {i : Nat} (hi : g.index[k]? = some i) :
    ∃ c, g.cells[i]? = some c ∧ c.key = k ∧ g.cell? k = some c := by
  obtain ⟨c, hc, hk⟩ := (h k i).mp hi
  exact ⟨c, hc, hk, by rw [cell?, hi]; exact hc⟩

lemma cell?_key (h : Indexed g) {i : Nat} {c : Cell} (hc : g.cells[i]? = some c) :
    g.cell? c.key = some c := by
  rw [cell?, (h c.key i).mpr ⟨c, hc, rfl⟩]
  exact hc

lemma key_ne (h : Indexed g) {k : CellKey} (hk : g.index[k]? = none) {i : Nat} {c : Cell}
    (hc : g.cells[i]? = some c) : c.key ≠ k := by
  intro hck
  rw [(h k i).mpr ⟨c, hc, hck⟩] at hk
  cases hk

lemma touch (h : Indexed g) (e : CellEvent) (color : Color) (k : CellKey) :
    Indexed (g.touch e color k) := by
  intro k' j
  have hj := h k' j
  cases hk : g.index[k]? with
  | some i =>
    rw [touch_old hk, Array.getElem?_modify, hj]
    split
    · simp
    · rfl
  | none =>
    rw [touch_new hk, Std.HashMap.getElem?_insert, Array.getElem?_push]
    by_cases hlast : j = g.cells.size
    · subst hlast
      have hnone : g.index[k']? ≠ some g.cells.size := by
        intro hi
        obtain ⟨c, hc, _⟩ := hj.mp hi
        simp at hc
      by_cases hkk : k = k' <;> simp [hkk, hnone]
    · by_cases hkk : k = k'
      · subst hkk
        have hne : ∀ c : Cell, g.cells[j]? = some c → c.key ≠ k := fun c hc => h.key_ne hk hc
        simpa [hlast, Ne.symm hlast] using hne
      · simpa [hlast, hkk] using hj

lemma cell?_touch (h : Indexed g) (e : CellEvent) (color : Color) (k k' : CellKey) :
    (g.touch e color k).cell? k' =
      if k' = k then some (((g.cell? k).map (Cell.record e)).getD ⟨k, color, #[e]⟩)
      else g.cell? k' := by
  cases hk : g.index[k]? with
  | some i =>
    obtain ⟨c, hc, hck, hcell⟩ := h.getElem?_cells hk
    rw [touch_old hk]
    split
    · next he =>
      subst he
      simp [VoxelGrid.cell?, hk, hc, Array.getElem?_modify]
    · next he =>
      cases hk' : g.index[k']? with
      | none => simp [VoxelGrid.cell?, hk']
      | some j =>
        obtain ⟨c', hc', hck', _⟩ := h.getElem?_cells hk'
        have hij : i ≠ j := by
          rintro rfl
          rw [hc] at hc'
          obtain rfl := Option.some.inj hc'
          exact he (hck'.symm.trans hck)
        simp [VoxelGrid.cell?, hk', Array.getElem?_modify, hij]
  | none =>
    rw [touch_new hk]
    split
    · next he =>
      subst he
      simp [VoxelGrid.cell?, hk]
    · next he =>
      cases hk' : g.index[k']? with
      | none => simp [VoxelGrid.cell?, Std.HashMap.getElem?_insert, hk', Ne.symm he]
      | some j =>
        obtain ⟨c', hc', _, _⟩ := h.getElem?_cells hk'
        obtain ⟨hlt, _⟩ := Array.getElem?_eq_some_iff.mp hc'
        simp [VoxelGrid.cell?, Std.HashMap.getElem?_insert, hk', Ne.symm he, Array.getElem?_push,
          Nat.ne_of_lt hlt]

lemma events_touch (h : Indexed g) (e : CellEvent) (color : Color) (k k' : CellKey) :
    (g.touch e color k).events k' = if k' = k then Log.record (g.events k) e else g.events k' := by
  rw [events, h.cell?_touch]
  split
  · rw [events]
    cases g.cell? k with
    | none => rfl
    | some c => simp
  · rfl

lemma nodup_keys (h : Indexed g) : (g.cells.toList.map (·.key)).Nodup := by
  have hat : ∀ (i : Nat) (hi : i < g.cells.size), g.index[g.cells[i].key]? = some i :=
    fun i hi => (h _ i).mpr ⟨_, Array.getElem?_eq_getElem hi, rfl⟩
  rw [List.Nodup, List.pairwise_iff_getElem]
  intro i j hi hj hij hk
  rw [List.length_map, Array.length_toList] at hi hj
  rw [List.getElem_map, List.getElem_map, Array.getElem_toList, Array.getElem_toList] at hk
  have hj' := hat j hj
  rw [← hk, hat i hi] at hj'
  exact Nat.ne_of_lt hij (Option.some.inj hj')

lemma cell?_eq_some_iff (h : Indexed g) (k : CellKey) (c : Cell) :
    g.cell? k = some c ↔ c ∈ g.cells ∧ c.key = k := by
  constructor
  · intro hc
    rw [cell?] at hc
    cases hi : g.index[k]? with
    | none => rw [hi] at hc; cases hc
    | some i =>
      obtain ⟨d, hd, hk, _⟩ := h.getElem?_cells hi
      rw [hi] at hc
      obtain rfl := Option.some.inj (hd.symm.trans hc)
      exact ⟨Array.mem_of_getElem? hd, hk⟩
  · rintro ⟨hm, rfl⟩
    obtain ⟨i, hi⟩ := Array.mem_iff_getElem?.mp hm
    exact h.cell?_key hi

lemma exists_of_events_ne (h : Indexed g) {k : CellKey} (hk : g.events k ≠ #[]) :
    ∃ c ∈ g.cells, c.key = k ∧ c.events = g.events k := by
  cases hc : g.cell? k with
  | none => exact absurd (by rw [events, hc]; rfl) hk
  | some c =>
    obtain ⟨hm, hck⟩ := (h.cell?_eq_some_iff k c).mp hc
    exact ⟨c, hm, hck, by rw [events, hc]; rfl⟩

end Indexed

def presentKeys (g : VoxelGrid) (o : Nat) : List CellKey :=
  (g.cells.toList.filter fun c => c.state o == .present).map (·.key)

lemma presentCount_eq_length (g : VoxelGrid) (o : Nat) :
    g.presentCount o = (g.presentKeys o).length := by
  rw [presentCount, presentKeys, List.length_map, ← Array.countP_toList,
    List.countP_eq_length_filter]

namespace Indexed

lemma nodup_presentKeys (h : Indexed g) (o : Nat) : (g.presentKeys o).Nodup :=
  h.nodup_keys.sublist (List.filter_sublist.map _)

lemma mem_presentKeys (h : Indexed g) (k : CellKey) (o : Nat) :
    k ∈ g.presentKeys o ↔ g.state k o = .present := by
  rw [presentKeys, List.mem_map]
  constructor
  · rintro ⟨c, hc, rfl⟩
    obtain ⟨hm, hs⟩ := List.mem_filter.mp hc
    have hcell := (h.cell?_eq_some_iff c.key c).mpr ⟨Array.mem_toList_iff.mp hm, rfl⟩
    rw [VoxelGrid.state, hcell]
    exact eq_of_beq hs
  · intro hs
    rw [VoxelGrid.state] at hs
    cases hcell : g.cell? k with
    | none => rw [hcell] at hs; cases hs
    | some c =>
      rw [hcell] at hs
      obtain ⟨hm, hk⟩ := (h.cell?_eq_some_iff k c).mp hcell
      exact ⟨c, List.mem_filter.mpr ⟨Array.mem_toList_iff.mpr hm, beq_iff_eq.mpr hs⟩, hk⟩

lemma presentCount_congr {g' : VoxelGrid} {o o' : Nat} (h : Indexed g) (h' : Indexed g')
    (hs : ∀ k, g.state k o = g'.state k o') : g.presentCount o = g'.presentCount o' := by
  rw [presentCount_eq_length, presentCount_eq_length]
  refine List.Perm.length_eq ?_
  refine (List.perm_ext_iff_of_nodup (h.nodup_presentKeys o) (h'.nodup_presentKeys o')).mpr ?_
  intro k
  rw [h.mem_presentKeys, h'.mem_presentKeys, hs k]

end Indexed
end VoxelGrid
end Toolpath
