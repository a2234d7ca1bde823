import Mathlib.Data.List.Forall2
import Toolpath.Proofs.Session.Rows
import Toolpath.Slicer.Metadata

/-! Lines that end in a carriage return say what they say without it. -/

namespace Toolpath
namespace Text

inductive Returned (line : List Char) : List Char → Prop
  | plain : Returned line line
  | marked : Returned line (line ++ ['\r'])

section Parts

variable {sep : Char}

lemma splitOn_cons (sep c : Char) (cs : List Char) :
    splitOn sep (c :: cs) =
      if c = sep then [] :: splitOn sep cs else (splitOn sep cs).modifyHead (c :: ·) := by
  unfold splitOn
  rw [List.foldr_cons]
  dsimp only
  split <;> rfl

lemma splitOn_ne_nil (sep : Char) (cs : List Char) : splitOn sep cs ≠ [] := List.cons_ne_nil _ _

lemma splitOn_closed {part : List Char} (h : sep ∉ part) (rest : List Char) :
    splitOn sep (part ++ sep :: rest) = part :: splitOn sep rest := by
  induction part with
  | nil => rw [List.nil_append, splitOn_cons, if_pos rfl]
  | cons c part ih =>
    obtain ⟨hc, hpart⟩ := List.ne_and_not_mem_of_not_mem_cons h
    rw [List.cons_append, splitOn_cons, if_neg hc.symm, ih hpart]
    rfl

lemma splitOn_open {part : List Char} (h : sep ∉ part) : splitOn sep part = [part] := by
  induction part with
  | nil => rfl
  | cons c part ih =>
    obtain ⟨hc, hpart⟩ := List.ne_and_not_mem_of_not_mem_cons h
    rw [splitOn_cons, if_neg hc.symm, ih hpart]
    rfl

lemma splitOnce?_closed {part : List Char} (h : sep ∉ part) (rest : List Char) :
    splitOnce? sep (part ++ sep :: rest) = some (part, rest) := by
  have hpart : ∀ c ∈ part, (c != sep) = true := fun c hc => bne_iff_ne.mpr (ne_of_mem_of_not_mem hc h)
  rw [splitOnce?, List.dropWhile_append_of_pos hpart, List.takeWhile_append_of_pos hpart]
  simp

lemma splitOnce?_open {part : List Char} (h : sep ∉ part) : splitOnce? sep part = none := by
  have hdrop : part.dropWhile (· != sep) = [] :=
    List.dropWhile_eq_nil_iff.mpr fun c hc => bne_iff_ne.mpr (ne_of_mem_of_not_mem hc h)
  rw [splitOnce?, hdrop]

lemma parts_induction (sep : Char) {P : List Char → Prop} (last : ∀ part, sep ∉ part → P part)
    (closed : ∀ part rest, sep ∉ part → P rest → P (part ++ sep :: rest)) (cs : List Char) : P cs := by
  induction hn : cs.length using Nat.strongRecOn generalizing cs with
  | ind n ih =>
    by_cases h : sep ∈ cs
    · obtain ⟨part, rest, rfl, hpart⟩ := List.eq_append_cons_of_mem h
      refine closed part rest hpart (ih rest.length ?_ rest rfl)
      rw [← hn, List.length_append, List.length_cons]
      omega
    · exact last cs h

end Parts

/-! White space at the end. -/

variable {c : Char} {line returned : List Char}

lemma trim_concat (hc : isBlank c) (line : List Char) : trim (line ++ [c]) = trim line := by
  have hend (cs : List Char) : trimEnd (cs ++ [c]) = trimEnd cs := by
    rw [trimEnd, List.reverse_append, List.reverse_singleton, List.singleton_append,
      List.dropWhile_cons_of_pos hc]
    rfl
  rw [trim, trim, trimStart, trimStart, List.dropWhile_append]
  split
  · next hall =>
    rw [List.isEmpty_iff.mp hall, List.dropWhile_cons_of_pos hc]
    rfl
  · exact hend _

lemma trim_splitOn_concat {sep : Char} (hc : isBlank c) (hsep : c ≠ sep) (cs : List Char) :
    (splitOn sep (cs ++ [c])).map trim = (splitOn sep cs).map trim := by
  induction cs using parts_induction sep with
  | last part h =>
    have hpart : sep ∉ part ++ [c] := by simp [h, hsep.symm]
    rw [splitOn_open hpart, splitOn_open h, List.map_singleton, trim_concat hc]
    rfl
  | closed part rest h ih =>
    rw [List.append_assoc, List.cons_append, splitOn_closed h, splitOn_closed h, List.map_cons, ih]
    rfl

lemma hasInfix_iff {word cs : List Char} : hasInfix word cs ↔ word <:+: cs := by
  induction cs with
  | nil => rw [hasInfix, List.isEmpty_iff, List.infix_nil]
  | cons c cs ih =>
    rw [hasInfix, Bool.or_eq_true, ih, List.isPrefixOf_iff_prefix, List.infix_cons_iff]

lemma hasInfix_concat {word : List Char} (hc : c ∉ word) (line : List Char) :
    hasInfix word (line ++ [c]) = hasInfix word line := by
  rw [Bool.eq_iff_iff, hasInfix_iff, hasInfix_iff, List.infix_concat_iff, List.suffix_concat_iff]
  constructor
  · rintro ((rfl | ⟨word, rfl, _⟩) | h)
    · exact List.nil_infix
    · exact absurd (List.mem_concat_self) hc
    · exact h
  · exact Or.inr

namespace Returned

open Metadata

lemma trim_eq (h : Returned line returned) : trim returned = trim line := by
  cases h with
  | plain => rfl
  | marked => exact trim_concat rfl line

lemma isCandidate_eq (h : Returned line returned) : isCandidate returned = isCandidate line := by
  cases h with
  | plain => rfl
  | marked => exact hasInfix_concat (by decide) line

lemma diametersOn_eq (h : Returned line returned) : diametersOn returned = diametersOn line := by
  cases h with
  | plain => rfl
  | marked =>
    have hread (values : List Char) :
        (splitOn ',' values).filterMap (fun v => Numeral.float? (trim v)) =
          ((splitOn ',' values).map trim).filterMap Numeral.float? := by
      rw [List.filterMap_map]
      rfl
    rw [diametersOn, diametersOn]
    by_cases h : '=' ∈ line
    · obtain ⟨key, values, rfl, hkey⟩ := List.eq_append_cons_of_mem h
      rw [List.append_assoc, List.cons_append, splitOnce?_closed hkey, splitOnce?_closed hkey]
      dsimp only
      rw [hread, hread, trim_splitOn_concat rfl (by decide)]
    · have hmarked : '=' ∉ line ++ ['\r'] := by simp [h]
      rw [splitOnce?_open h, splitOnce?_open hmarked]

end Returned
/-! The lines of a text are its rows, but for the carriage returns. -/

lemma returned_dropReturn (line : List Char) : Returned (dropReturn line) line := by
  rw [dropReturn]
  split
  · next h =>
    obtain ⟨line, rfl⟩ := List.getLast?_eq_some_iff.mp h
    rw [List.dropLast_concat]
    exact .marked
  · exact .plain

lemma lines_closed (h : '\n' ∉ line) (rest : List Char) :
    lines (line ++ '\n' :: rest) = dropReturn line :: lines rest := by
  have hne := splitOn_ne_nil '\n' rest
  unfold lines
  rw [splitOn_closed h]
  dsimp only
  rw [List.dropLast_cons_of_ne_nil hne, List.getLast?_cons_of_ne_nil hne]
  split <;> rfl

lemma lines_open (h : '\n' ∉ line) (hne : line ≠ []) : lines line = [line] := by
  unfold lines
  rw [splitOn_open h]
  dsimp only [List.getLast?_singleton]
  split
  · next hl => cases hl
  · next hl => exact absurd (Option.some.inj hl) hne
  · next hl => rw [← Option.some.inj hl]; rfl

lemma returned_lines (cs : List Char) : List.Forall₂ Returned (lines cs) ((rows cs).map bare) := by
  induction cs using parts_induction '\n' with
  | last line h =>
    cases hline : line with
    | nil => exact .nil
    | cons c cs =>
      have hne : line ≠ [] := hline ▸ List.cons_ne_nil c cs
      rw [← hline, lines_open h hne, rows_open h hne, List.map_singleton, bare_open h]
      exact .cons .plain .nil
  | closed line rest h ih =>
    rw [lines_closed h, rows_closed h, List.map_cons, bare_closed]
    exact .cons (returned_dropReturn line) ih

end Text

namespace Metadata

lemma scan_filter (lines : List (List Char)) : scan (lines.filter isCandidate) = scan lines := by
  rw [scan, scan, List.foldl_filter]
  congr 1
  funext found line
  split <;> rfl

lemma scan_returned {lines returned : List (List Char)}
    (h : List.Forall₂ Text.Returned lines returned) : scan returned = scan lines := by
  unfold scan
  generalize [] = found
  induction h generalizing found with
  | nil => rfl
  | cons hline _ ih =>
    rw [List.foldl_cons, List.foldl_cons, hline.isCandidate_eq, hline.diametersOn_eq]
    exact ih _

end Metadata
end Toolpath
