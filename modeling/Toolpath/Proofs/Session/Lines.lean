import Toolpath.Proofs.Motion.Drawn
import Toolpath.Proofs.Session.Timeline
import Toolpath.Proofs.Session.Whole
import Toolpath.Proofs.Text.Crlf

/-! The lines of a text as a machine is fed with them, each under the stamp at which it ends. -/

namespace Toolpath

namespace Text

variable {rows : List (List Char)} {text row : List Char} {line : List Char × Stamp}

def stamped (rows : List (List Char)) : List (List Char × Stamp) :=
  rows.zipIdx.map fun row => (bare row.1, .behind (rows.take (row.2 + 1)))

lemma stamped_concat (rows : List (List Char)) (row : List Char) :
    stamped (rows ++ [row]) = stamped rows ++ [(bare row, .behind (rows ++ [row]))] := by
  have htake : ∀ past ∈ rows.zipIdx, (bare past.1, Stamp.behind ((rows ++ [row]).take (past.2 + 1))) =
      (bare past.1, .behind (rows.take (past.2 + 1))) := by
    intro past hpast
    rw [List.take_append_of_le_length (List.snd_lt_of_mem_zipIdx hpast)]
  rw [stamped, List.zipIdx_append, List.map_append, List.map_congr_left htake, stamped]
  simp [List.take_of_length_le]

lemma mem_stamped (h : line ∈ stamped rows) :
    (∃ row ∈ rows, bare row = line.1) ∧ line.2.offset ≤ (Stamp.behind rows).offset := by
  obtain ⟨row, hrow, rfl⟩ := List.mem_map.mp h
  exact ⟨⟨row.1, List.fst_mem_of_mem_zipIdx hrow, rfl⟩, sizeUpTo_le rows _⟩

lemma pairwise_stamped (hne : ∀ row ∈ rows, row ≠ []) :
    (stamped rows).Pairwise fun line line' => line.2.offset < line'.2.offset := by
  induction rows using List.reverseRecOn with
  | nil => exact List.Pairwise.nil
  | append_singleton rows row ih =>
    have hpast : ∀ past ∈ rows, past ≠ [] := fun past hp => hne past (List.mem_append_left _ hp)
    have hrow : row ≠ [] := hne row (List.mem_append_right _ (List.mem_singleton_self row))
    rw [stamped_concat]
    refine List.pairwise_append.mpr ⟨ih hpast, List.pairwise_singleton _ _, fun line hline line' hl => ?_⟩
    obtain rfl := List.mem_singleton.mp hl
    rw [Stamp.behind_concat]
    exact Nat.lt_of_le_of_lt (mem_stamped hline).2 (Nat.lt_add_of_pos_right (byteSize_pos hrow))

lemma newline_notMem_bare (h : row ∈ Text.rows text) : '\n' ∉ bare row := by
  induction text using parts_induction '\n' with
  | last line hline =>
    rw [eq_of_mem_rows_open hline h, bare_open hline]
    exact hline
  | closed line rest hline ih =>
    rw [rows_closed hline] at h
    rcases List.mem_cons.mp h with rfl | h
    · rw [bare_closed]
      exact hline
    · exact ih h

end Text

lemma Reading.run_ofRows (m : Machine) (rows : List (List Char)) :
    (ofRows m rows).run = (⟨m, {}⟩ : Run).feedAll (Text.stamped rows) := by
  induction rows using List.reverseRecOn with
  | nil => rfl
  | append_singleton rows row ih =>
    rw [ofRows_concat, read, stamp_ofRows, ← Stamp.behind_concat, ih, Text.stamped_concat,
      Run.feedAll_concat]

lemma Interpretation.exists_run_of_ofText {settings : Settings} {text : List Char}
    {i : Interpretation} (h : ofText settings text = .ok i) :
    ∃ m, Machine.ofSettings settings (.ofProgram text) = .ok m ∧
      i.store = ((⟨m, {}⟩ : Run).feedAll (Text.stamped (Text.rows text))).store := by
  obtain ⟨m, s, hm, -, hend, rfl⟩ := exists_ended_of_ofText h
  refine ⟨m, hm, ?_⟩
  rw [hend.output_eq, ← Reading.run_ofRows]
  rfl

end Toolpath
