import Mathlib.Data.List.Induction
import Toolpath.Proofs.Motion.Path

/-! Who draws what. Each segment of a run bears the marks of the machine as it was right after the
line that drew it. -/

namespace Toolpath
namespace Machine

variable {m : Machine} {stamp : Stamp}

def Draws (m : Machine) (s : Segment) : Prop := ∃ k p q, s = m.segment k p q

lemma Moved.draws {mode : MotionMode} {target : Point} {r : Machine × List Emission}
    (h : Moved m mode target stamp r) : ∀ s ∈ r.2.filterMap Emission.segment?, r.1.Draws s := by
  cases h with
  | unseen => exact List.forall_mem_nil _
  | degenerate e => exact List.forall_mem_nil _
  | overflow => exact List.forall_mem_nil _
  | drawn depositing inner _ _ =>
    intro s hs
    obtain ⟨p, q, hs⟩ := exists_of_mem_draw hs
    exact ⟨_, p, q, hs⟩

lemma Executed.draws {i : Instruction} {r : Machine × List Emission} (h : Executed m i stamp r) :
    ∀ s ∈ r.2.filterMap Emission.segment?, r.1.Draws s := by
  cases h with
  | offset => exact List.forall_mem_nil _
  | home => exact List.forall_mem_nil _
  | move mode machineCoords => exact (moved ..).draws
  | idle => exact List.forall_mem_nil _

lemma Interpreted.draws {line : List Char} {r : Machine × Drawing}
    (h : Interpreted m line stamp r) : ∀ s ∈ r.2.segments, r.1.Draws s := by
  cases h with
  | blank _ => exact List.forall_mem_nil _
  | comment _ => exact List.forall_mem_nil _
  | wordless _ => exact List.forall_mem_nil _
  | words _ hr =>
    have hexecuted := (m.recordAll (malformed line stamp)).executed (instruction line) stamp
    rw [hr] at hexecuted
    exact hexecuted.draws

end Machine

namespace Run

lemma feedAll_concat (r : Run) (lines : List (List Char × Stamp)) (line : List Char × Stamp) :
    r.feedAll (lines ++ [line]) = (r.feedAll lines).feed line.1 line.2 := by
  rw [feedAll, List.foldl_append, List.foldl_cons, List.foldl_nil, feedAll]

lemma machine_feedAll {P : Machine → Prop} {r : Run} {lines : List (List Char × Stamp)}
    (h : P r.machine) (step : ∀ m, P m → ∀ line ∈ lines, P (m.interpret line.1 line.2).1) :
    P (r.feedAll lines).machine :=
  List.foldlRecOn (motive := fun r : Run => P r.machine) lines _ h fun r hr line hline =>
    step r.machine hr line hline

lemma mem_segments_feed {r : Run} {line : List Char} {stamp : Stamp} {s : Segment} :
    s ∈ (r.feed line stamp).store.segments ↔
      s ∈ r.store.segments ∨ s ∈ (r.machine.interpret line stamp).2.segments := by
  rw [store_feed, ← Array.mem_toList_iff, Store.toList_segments_draw, List.mem_append,
    Array.mem_toList_iff]

lemma exists_line_of_mem {r : Run} (hr : r.store = {}) {lines : List (List Char × Stamp)}
    {s : Segment} (hs : s ∈ (r.feedAll lines).store.segments) :
    ∃ past line later, lines = past ++ line :: later ∧
      s ∈ ((r.feedAll past).machine.interpret line.1 line.2).2.segments := by
  induction lines using List.reverseRecOn with
  | nil =>
    rw [feedAll, List.foldl_nil, hr] at hs
    exact absurd hs (Array.not_mem_empty s)
  | append_singleton lines line ih =>
    rw [feedAll_concat, mem_segments_feed] at hs
    rcases hs with hs | hs
    · obtain ⟨past, earlier, later, rfl, hdrawn⟩ := ih hs
      exact ⟨past, earlier, later ++ [line], by simp, hdrawn⟩
    · exact ⟨lines, line, [], rfl, hs⟩

lemma exists_draws {r : Run} (hr : r.store = {}) {lines : List (List Char × Stamp)} {s : Segment}
    (hs : s ∈ (r.feedAll lines).store.segments) :
    ∃ past, past <+: lines ∧ (r.feedAll past).machine.Draws s := by
  obtain ⟨past, line, later, rfl, hdrawn⟩ := exists_line_of_mem hr hs
  refine ⟨past ++ [line], ⟨later, by simp⟩, ?_⟩
  rw [feedAll_concat, machine_feed]
  exact (Machine.interpreted ..).draws s hdrawn

end Run
end Toolpath
