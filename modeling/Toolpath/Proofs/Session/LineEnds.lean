import Toolpath.Proofs.Motion.Redate
import Toolpath.Proofs.Session.Diameters
import Toolpath.Proofs.Session.Timeline
import Toolpath.Proofs.Text.Crlf

/-! Programs with other line ends. A carriage return before every newline makes offsets count it, and
changes nothing else. -/

namespace Toolpath

def Text.crlfOffset (text : List Char) (o : Nat) : Nat := o + (upToByte o text).count '\n'

def Interpretation.redate (f : Nat → Nat) (i : Interpretation) : Interpretation :=
  { i with store := i.store.redate f }

lemma Metadata.scanProgram_crlf (text : List Char) :
    scanProgram (Text.crlf text) = scanProgram text := by
  have hlines := Text.returned_lines_crlf text
  rw [scanProgram, scanProgram, ← hlines.length_eq]
  exact scan_returned (List.forall₂_drop _ hlines)

lemma Machine.interpret_returned {line returned : List Char} (h : Text.Returned line returned)
    (m : Machine) (stamp : Stamp) : m.interpret returned stamp = m.interpret line stamp := by
  rw [interpret, interpret, h.trim_eq]

namespace Stamp

lemma behind_crlf {rows rest : List (List Char)} {text : List Char}
    (h : Text.rows text = rows ++ rest) :
    behind (rows.map Text.crlf) = (behind rows).redate (Text.crlfOffset text) := by
  have htext : rows.flatten ++ rest.flatten = text := by
    rw [← Text.flatten_rows text, h, List.flatten_append]
  rw [behind, List.length_map, Text.flatten_map_crlf, Text.byteSize_crlf, redate, behind,
    Text.crlfOffset, ← htext, Text.upToByte_byteSize]

end Stamp

namespace Reading

variable {text : List Char} {rows rest : List (List Char)}

lemma run_ofRows_crlf (m : Machine) (h : Text.rows text = rows ++ rest) :
    (ofRows m (rows.map Text.crlf)).run = (ofRows m rows).run.redate (Text.crlfOffset text) := by
  -- what has been read stays a prefix of the text, which fixes how far its offset moves
  induction rows using List.reverseRecOn generalizing rest with
  | nil => exact congrArg (Run.mk m) (Store.redate_empty _).symm
  | append_singleton rows row ih =>
    have hrow : row ∈ Text.rows text := by simp [h]
    have hstamp := Stamp.behind_crlf h
    rw [List.append_assoc] at h
    rw [List.map_append, List.map_singleton, Stamp.behind_concat, Stamp.behind_concat] at hstamp
    rw [List.map_append, List.map_singleton, ofRows_concat, ofRows_concat, read, read, stamp_ofRows,
      stamp_ofRows, ih h, hstamp]
    dsimp only
    rw [← Run.feed_redate, Run.feed, Machine.interpret_returned (Text.returned_bare_crlf hrow)]
    rfl

lemma close_crlf (m : Machine) (text : List Char) :
    (ofRows m (Text.rows (Text.crlf text))).close =
      (ofRows m (Text.rows text)).close.redate (Text.crlfOffset text) := by
  have hrun := run_ofRows_crlf m (List.append_nil (Text.rows text)).symm
  rw [close_ofRows, close_ofRows, Metadata.scanProgram_crlf, Text.rows_crlf, hrun]
  rfl

end Reading

namespace Interpretation

theorem ofText_crlf (settings : Settings) (text : List Char) :
    ofText settings (Text.crlf text) =
      (ofText settings text).map (redate (Text.crlfOffset text)) := by
  rw [ofText_eq, ofText_eq, Text.isBarren_crlf, Text.isBlankLine_crlf, SlicerStyle.ofProgram_crlf]
  split
  · rfl
  · cases Machine.ofSettings settings (.ofProgram text) with
    | error e => rfl
    | ok m =>
      dsimp only [Except.bind]
      split
      · rfl
      · rw [Reading.close_crlf]
        rfl

end Interpretation
end Toolpath
