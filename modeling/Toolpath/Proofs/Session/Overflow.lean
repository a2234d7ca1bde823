import Toolpath.Proofs.Line.Overflow
import Toolpath.Proofs.Session.Step
import Toolpath.Proofs.Session.Whole

/-! Texts that overflow: those with a line that does, and those with more lines than can be counted. A
session gives an answer as long as it has not come so far. -/

namespace Toolpath

lemma Machine.overflowed_ofTools {s : Settings} {tools : ToolTable} {style : SlicerStyle} {m : Machine}
    (h : ofTools s tools style = .ok m) : m.overflowed = false := by
  obtain ⟨resolution, rfl⟩ := exists_of_ofTools h
  rfl

namespace Reading

variable {m : Machine} {rows : List (List Char)}

def OverflowsAt (m : Machine) (rows : List (List Char)) (k : Nat) : Prop :=
  ∃ row, rows[k]? = some row ∧
    (ofRows m (rows.take k)).run.machine.overflowsAt (Text.bare row) (.behind (rows.take (k + 1)))

lemma overflowed_concat (row : List Char) :
    (ofRows m (rows ++ [row])).run.machine.overflowed =
      ((ofRows m rows).run.machine.overflowed ||
        (ofRows m rows).run.machine.overflowsAt (Text.bare row) (.behind (rows ++ [row]))) := by
  rw [ofRows_concat, read, Run.machine_feed, Machine.overflowed_interpret, stamp_ofRows,
    Stamp.behind_concat]

lemma overflowed_take_iff (hm : m.overflowed = false) (n : Nat) :
    (ofRows m (rows.take n)).run.machine.overflowed ↔ ∃ k < n, OverflowsAt m rows k := by
  induction n with
  | zero =>
    have hnew : ¬ (ofRows m (rows.take 0)).run.machine.overflowed := Bool.eq_false_iff.mp hm
    exact iff_of_false hnew fun ⟨k, hk, _⟩ => Nat.not_lt_zero k hk
  | succ n ih =>
    have hsplit : (∃ k < n + 1, OverflowsAt m rows k) ↔
        (∃ k < n, OverflowsAt m rows k) ∨ OverflowsAt m rows n := Nat.exists_lt_succ_right
    rw [hsplit, ← ih]
    cases hrow : rows[n]? with
    | none =>
      have hlast : ¬ OverflowsAt m rows n := fun ⟨row, hn, _⟩ => by rw [hrow] at hn; cases hn
      rw [List.take_add_one, hrow, Option.toList_none, List.append_nil]
      exact (or_iff_left hlast).symm
    | some row =>
      have htake : rows.take (n + 1) = rows.take n ++ [row] := by
        rw [List.take_add_one, hrow, Option.toList_some]
      have hlast : OverflowsAt m rows n ↔ (ofRows m (rows.take n)).run.machine.overflowsAt
          (Text.bare row) (.behind (rows.take n ++ [row])) := by
        rw [OverflowsAt, hrow, htake]
        simp
      rw [htake, overflowed_concat, Bool.or_eq_true, hlast]

end Reading

def Settings.OverflowsAt (settings : Settings) (text : List Char) (k : Nat) : Prop :=
  ∃ m, Machine.ofSettings settings (.ofProgram text) = .ok m ∧ Reading.OverflowsAt m (Text.rows text) k

lemma Machine.not_isBlankLine_of_overflowsAt {m : Machine} {line : List Char} {stamp : Stamp}
    (h : m.overflowsAt line stamp) : ¬ Text.isBlankLine line := by
  intro hblank
  have hempty : Text.trim line = [] := by
    rw [Text.trim, Text.trimStart_pad hblank]
    rfl
  rw [overflowsAt, isNoted, hempty] at h
  cases h

lemma Settings.OverflowsAt.exists_content {settings : Settings} {text : List Char} {k : Nat}
    (h : settings.OverflowsAt text k) : ∃ row ∈ Text.rows text, ¬ Text.isBlankLine (Text.bare row) := by
  obtain ⟨m, _, row, hrow, hover⟩ := h
  exact ⟨row, List.mem_of_getElem? hrow, Machine.not_isBlankLine_of_overflowsAt hover⟩

lemma Settings.OverflowsAt.lt {settings : Settings} {text : List Char} {k : Nat}
    (h : settings.OverflowsAt text k) : k < (Text.rows text).length := by
  obtain ⟨m, _, row, hrow, _⟩ := h
  exact (List.getElem?_eq_some_iff.mp hrow).1

namespace Session

variable {settings : Settings} {text : List Char} {left : Option (List Char)} {s : Session}
  {m : Machine}

lemma settings_overflowsAt_iff (hm : Machine.ofSettings settings (.ofProgram text) = .ok m) {k : Nat} :
    settings.OverflowsAt text k ↔ Reading.OverflowsAt m (Text.rows text) k := by
  constructor
  · rintro ⟨m', hm', hk⟩
    rw [hm] at hm'
    obtain rfl := Except.ok.inj hm'
    exact hk
  · exact fun hk => ⟨m, hm, hk⟩

lemma Follows.line_le (h : Follows settings text left s)
    (hm : Machine.ofSettings settings (.ofProgram text) = .ok m) :
    s.buffer.lineNumber ≤ (Text.rows text).length := by
  obtain h | ⟨past, h⟩ | h := h.stage hm
  · exact h.line_eq ⟨m, {}⟩ ▸ Nat.zero_le _
  · rw [h.line_eq, h.rows_eq, List.length_append]
    exact Nat.le_add_right ..
  · exact Nat.le_of_eq h.line_eq

lemma Follows.overflowed_run (h : Follows settings text left s)
    (hm : Machine.ofSettings settings (.ofProgram text) = .ok m) :
    s.run.any (·.machine.overflowed) =
      (Reading.ofRows m ((Text.rows text).take s.buffer.lineNumber)).run.machine.overflowed := by
  obtain h | ⟨past, h⟩ | h := h.stage hm
  · rw [h.run_eq, h.line_eq ⟨m, {}⟩]
    exact (Machine.overflowed_ofTools hm).symm
  · obtain ⟨r, hr, hq⟩ := Option.map_eq_some_iff.mp h.reading_eq
    rw [h.line_eq, h.rows_eq, List.take_left, hr, ← hq]
    rfl
  · rw [h.line_eq, List.take_length, h.run_eq]
    rfl

lemma checked_eq_none_iff {α : Type} {r : Session × α} : checked r = none ↔ r.1.overflowed := by
  simp [checked]

lemma checked_eq_some_iff {α : Type} {r r' : Session × α} :
    checked r = some r' ↔ r = r' ∧ ¬ r.1.overflowed := by
  simp only [checked, Option.ite_none_left_eq_some, Option.some.injEq]
  exact and_comm

lemma Follows.overflowed_iff (h : Follows settings text left s)
    (hm : Machine.ofSettings settings (.ofProgram text) = .ok m) :
    s.overflowed ↔
      (∃ k < s.buffer.lineNumber, settings.OverflowsAt text k) ∨
        LineBuffer.lineLimit ≤ s.buffer.lineNumber := by
  rw [overflowed, Bool.or_eq_true, h.overflowed_run hm, decide_eq_true_iff,
    Reading.overflowed_take_iff (Machine.overflowed_ofTools hm)]
  simp only [settings_overflowsAt_iff hm]

lemma Follows.step?_eq_none_iff (h : Follows settings text left s)
    (hm : Machine.ofSettings settings (.ofProgram text) = .ok m) (b : Budget)
    (hlines : (Text.rows text).length < LineBuffer.lineLimit) :
    s.step? b = none ↔ ∃ k < (s.step b).1.buffer.lineNumber, settings.OverflowsAt text k := by
  have hnext := (h.step b).1
  have hcount := Nat.not_le.mpr (Nat.lt_of_le_of_lt (hnext.line_le hm) hlines)
  rw [step?, checked_eq_none_iff, hnext.overflowed_iff hm]
  exact or_iff_left hcount

lemma Follows.step?_eq_some (h : Follows settings text left s)
    (hm : Machine.ofSettings settings (.ofProgram text) = .ok m) (b : Budget)
    (hlines : (Text.rows text).length < LineBuffer.lineLimit)
    (hfits : ∀ k, ¬ settings.OverflowsAt text k) :
    s.step? b = some (s.step b) := by
  refine checked_eq_some_iff.mpr ⟨rfl, mt checked_eq_none_iff.mpr fun hnone => ?_⟩
  obtain ⟨k, _, hk⟩ := (h.step?_eq_none_iff hm b hlines).mp hnone
  exact hfits k hk

lemma runToEnd_eq (s : Session) : s.runToEnd = s.finish.step .unlimited :=
  drive_eq_step (step_ne_pending rfl rfl fun _ => rfl) _

end Session

namespace Interpretation

variable {settings : Settings} {text : List Char} {m : Machine}

lemma ofText?_eq (settings : Settings) (text : List Char) :
    ofText? settings text =
      if (({ settings } : Session).push text).runToEnd.1.overflowed then none
      else some (ofText settings text) := by
  rw [ofText?, Session.runToEnd?, Session.checked, ofText, apply_ite (Option.map _), Option.map_some]
  obtain ⟨s, answer⟩ := (({ settings } : Session).push text).runToEnd
  cases answer with
  | error e => rfl
  | ok outcome => rfl

lemma ofText?_eq_none_iff (hm : Machine.ofSettings settings (.ofProgram text) = .ok m)
    (hcount : (Text.rows text).length < LineBuffer.lineLimit) :
    ofText? settings text = none ↔ ∃ k, settings.OverflowsAt text k := by
  have hend : ofText? settings text = none ↔
      (({ settings } : Session).push text).finish.step? .unlimited = none := by
    rw [ofText?_eq, Session.runToEnd_eq, Session.step?, Session.checked_eq_none_iff]
    simp
  rw [hend, (Session.Follows.waiting (Session.waiting_new settings text)).step?_eq_none_iff hm _ hcount]
  constructor
  · rintro ⟨k, _, hk⟩
    exact ⟨k, hk⟩
  · rintro ⟨k, hk⟩
    -- a line that overflows is content, so all lines are read
    obtain ⟨row, hrow, hcontent⟩ := hk.exists_content
    have hblank : ¬ Text.isBlankLine text := fun h => hcontent (Text.isBlankLine_bare h hrow)
    obtain ⟨s, hrun, hended⟩ :=
      Session.exists_ended hm (Reading.sawContent_of_not_isBlankLine hblank m)
    rw [← Session.runToEnd_eq, hrun]
    exact ⟨k, hended.line_eq ▸ hk.lt, hk⟩

end Interpretation
end Toolpath
