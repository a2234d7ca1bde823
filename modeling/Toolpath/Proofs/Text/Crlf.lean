import Mathlib.Data.List.Find
import Toolpath.Proofs.Session.Reading
import Toolpath.Proofs.Text.Returns

/-! Texts with a carriage return before every newline. They have the same rows, but for the carriage
returns, and name the same slicer. -/

namespace Toolpath
namespace Text

def crlf (cs : List Char) : List Char := cs.flatMap fun c => if c = '\n' then ['\r', '\n'] else [c]

def upToByte : Nat → List Char → List Char
  | _, [] => []
  | n, c :: cs => if c.utf8Size ≤ n then c :: upToByte (n - c.utf8Size) cs else []

variable {c : Char} {cs line row word : List Char}

lemma crlf_append (cs ds : List Char) : crlf (cs ++ ds) = crlf cs ++ crlf ds := List.flatMap_append

lemma crlf_newline (cs : List Char) : crlf ('\n' :: cs) = '\r' :: '\n' :: crlf cs := rfl

lemma crlf_cons (hc : c ≠ '\n') (cs : List Char) : crlf (c :: cs) = c :: crlf cs := by
  rw [crlf, List.flatMap_cons, if_neg hc]
  rfl

lemma crlf_eq_self (h : '\n' ∉ cs) : crlf cs = cs := by
  induction cs with
  | nil => rfl
  | cons c cs ih =>
    obtain ⟨hc, hcs⟩ := List.ne_and_not_mem_of_not_mem_cons h
    rw [crlf_cons hc.symm, ih hcs]

lemma crlf_closed (h : '\n' ∉ line) (rest : List Char) :
    crlf (line ++ '\n' :: rest) = (line ++ ['\r']) ++ '\n' :: crlf rest := by
  rw [crlf_append, crlf_eq_self h, crlf_newline, List.append_assoc]
  rfl

lemma newline_notMem_marked (h : '\n' ∉ line) : '\n' ∉ line ++ ['\r'] := by simp [h]

lemma flatten_map_crlf (rows : List (List Char)) : (rows.map crlf).flatten = crlf rows.flatten := by
  induction rows with
  | nil => rfl
  | cons row rows ih => rw [List.map_cons, List.flatten_cons, List.flatten_cons, crlf_append, ih]

lemma byteSize_crlf (cs : List Char) : byteSize (crlf cs) = byteSize cs + cs.count '\n' := by
  induction cs with
  | nil => rfl
  | cons c cs ih =>
    by_cases hc : c = '\n'
    · have hreturn : '\r'.utf8Size = 1 := rfl
      rw [hc, crlf_newline, List.count_cons_self, byteSize_cons, byteSize_cons, byteSize_cons, ih,
        hreturn]
      omega
    · rw [crlf_cons hc, List.count_cons_of_ne hc, byteSize_cons, byteSize_cons, ih, Nat.add_assoc]

lemma upToByte_byteSize (cs coming : List Char) : upToByte (byteSize cs) (cs ++ coming) = cs := by
  induction cs with
  | nil =>
    cases coming with
    | nil => rfl
    | cons c coming => exact if_neg (Nat.not_le.mpr c.utf8Size_pos)
  | cons c cs ih =>
    rw [List.cons_append, upToByte, byteSize_cons, if_pos (Nat.le_add_right ..),
      Nat.add_sub_cancel_left, ih]

lemma isBlankLine_crlf (cs : List Char) : isBlankLine (crlf cs) = isBlankLine cs := by
  rw [isBlankLine, crlf, List.all_flatMap]
  refine congrArg cs.all (funext fun c => ?_)
  split
  · next hc => subst hc; rfl
  · exact Bool.and_true _

lemma eq_of_mem_rows_open (h : '\n' ∉ line) (hr : row ∈ rows line) : row = line := by
  cases hline : line with
  | nil =>
    rw [hline] at hr
    cases hr
  | cons c cs =>
    rw [rows_open h (hline ▸ List.cons_ne_nil c cs)] at hr
    rw [← hline, List.mem_singleton.mp hr]

lemma rows_crlf (cs : List Char) : rows (crlf cs) = (rows cs).map crlf := by
  induction cs using parts_induction '\n' with
  | last line h =>
    have hsame : ∀ row ∈ rows line, crlf row = row := by
      intro row hr
      rw [eq_of_mem_rows_open h hr, crlf_eq_self h]
    rw [crlf_eq_self h, List.map_congr_left hsame, List.map_id']
  | closed line rest h ih =>
    rw [crlf_closed h, rows_closed (newline_notMem_marked h), rows_closed h, ih, List.map_cons,
      crlf_closed h]
    rfl

lemma returned_bare_crlf (h : row ∈ rows cs) : Returned (bare row) (bare (crlf row)) := by
  induction cs using parts_induction '\n' with
  | last line hline =>
    rw [eq_of_mem_rows_open hline h, crlf_eq_self hline]
    exact .plain
  | closed line rest hline ih =>
    rw [rows_closed hline] at h
    rcases List.mem_cons.mp h with rfl | h
    · rw [crlf_closed hline, bare_closed]
      exact (bare_closed (line ++ ['\r'])).symm ▸ .marked
    · exact ih h

lemma returned_lines_crlf (cs : List Char) : List.Forall₂ Returned (lines cs) (lines (crlf cs)) := by
  induction cs using parts_induction '\n' with
  | last line h =>
    rw [crlf_eq_self h]
    exact List.forall₂_same.mpr fun _ _ => .plain
  | closed line rest h ih =>
    have hmarked : dropReturn (line ++ ['\r']) = line := by simp [dropReturn]
    rw [crlf_closed h, lines_closed h, lines_closed (newline_notMem_marked h), hmarked]
    exact .cons (returned_dropReturn line) ih

lemma upToLine?_crlf (n : Nat) (cs : List Char) :
    LineBuffer.upToLine? (n + 1) (crlf cs) =
      (LineBuffer.upToLine? (n + 1) cs).map fun head => crlf head ++ ['\r'] := by
  induction cs generalizing n with
  | nil => rfl
  | cons c cs ih =>
    by_cases hc : c = '\n'
    · subst hc
      cases n with
      | zero => rfl
      | succ n =>
        have hstep : LineBuffer.upToLine? (n + 2) ('\r' :: '\n' :: crlf cs) =
            ((LineBuffer.upToLine? (n + 1) (crlf cs)).map ('\n' :: ·)).map ('\r' :: ·) := rfl
        have hstep' : LineBuffer.upToLine? (n + 2) ('\n' :: cs) =
            (LineBuffer.upToLine? (n + 1) cs).map ('\n' :: ·) := rfl
        rw [crlf_newline, hstep, hstep', ih, Option.map_map, Option.map_map, Option.map_map]
        rfl
    · rw [crlf_cons hc, LineBuffer.upToLine?, LineBuffer.upToLine?, if_neg hc, if_neg hc, ih,
        Option.map_map, Option.map_map]
      refine congrArg (Option.map · _) (funext fun head => ?_)
      exact congrArg (· ++ ['\r']) (crlf_cons hc head).symm

lemma isBarren_crlf (cs : List Char) : LineBuffer.isBarren (crlf cs) = LineBuffer.isBarren cs := by
  rw [LineBuffer.isBarren, LineBuffer.isBarren, isBlankLine_crlf, LineBuffer.headLines,
    upToLine?_crlf, Option.isNone_map]

/-! Words without line ends, such as the names of slicers. -/

lemma newline_notMem_lowerChar (hc : c ≠ '\n') : '\n' ∉ lowerChar c := by
  have hlow : ∀ n < 128, Char.ofNat n ≠ '\n' → '\n' ≠ (Char.ofNat n).toLower := by decide
  have h307 : '\n' ≠ Char.ofNat 0x307 := by decide
  unfold lowerChar
  split
  · next h =>
    have hne := hlow c.toNat h
    rw [Char.ofNat_toNat] at hne
    exact List.mem_singleton.not.mpr (hne hc)
  · split
    · decide
    · split
      · simp [h307]
      · exact List.mem_singleton.not.mpr hc.symm

lemma lower_crlf (cs : List Char) : lower (crlf cs) = crlf (lower cs) := by
  induction cs with
  | nil => rfl
  | cons c cs ih =>
    have hcons (c : Char) (cs : List Char) : lower (c :: cs) = lowerChar c ++ lower cs :=
      List.flatMap_cons
    by_cases hc : c = '\n'
    · have hnewline : lowerChar '\n' = ['\n'] := rfl
      have hreturn : lowerChar '\r' = ['\r'] := rfl
      rw [hc, crlf_newline, hcons, hcons, hcons, hnewline, hreturn, ih]
      rfl
    · rw [crlf_cons hc, hcons, hcons, ih, crlf_append, crlf_eq_self (newline_notMem_lowerChar hc)]

lemma prefix_crlf_iff (hn : '\n' ∉ word) (hr : '\r' ∉ word) : word <+: crlf cs ↔ word <+: cs := by
  induction cs generalizing word with
  | nil => exact Iff.rfl
  | cons c cs ih =>
    cases word with
    | nil => exact iff_of_true List.nil_prefix List.nil_prefix
    | cons w word =>
      obtain ⟨hwn, hn⟩ := List.ne_and_not_mem_of_not_mem_cons hn
      obtain ⟨hwr, hr⟩ := List.ne_and_not_mem_of_not_mem_cons hr
      by_cases hc : c = '\n'
      · rw [hc, crlf_newline, List.cons_prefix_cons, List.cons_prefix_cons]
        exact iff_of_false (fun h => hwr h.1.symm) (fun h => hwn h.1.symm)
      · rw [crlf_cons hc, List.cons_prefix_cons, List.cons_prefix_cons, ih hn hr]

lemma infix_cons_of_notMem (hc : c ∉ word) : word <:+: c :: cs ↔ word <:+: cs := by
  rw [List.infix_cons_iff, List.prefix_cons_iff]
  constructor
  · rintro ((rfl | ⟨word, rfl, _⟩) | h)
    · exact List.nil_infix
    · exact absurd List.mem_cons_self hc
    · exact h
  · exact Or.inr

lemma hasInfix_crlf (hn : '\n' ∉ word) (hr : '\r' ∉ word) (cs : List Char) :
    hasInfix word (crlf cs) = hasInfix word cs := by
  rw [Bool.eq_iff_iff, hasInfix_iff, hasInfix_iff]
  induction cs with
  | nil => exact Iff.rfl
  | cons c cs ih =>
    by_cases hc : c = '\n'
    · -- a word without line ends lies on one side of both characters
      rw [hc, crlf_newline, infix_cons_of_notMem hr, infix_cons_of_notMem hn,
        infix_cons_of_notMem hn, ih]
    · rw [List.infix_cons_iff, ← ih, ← prefix_crlf_iff hn hr, crlf_cons hc, List.infix_cons_iff]

lemma returned_headOf_crlf (cs : List Char) :
    Returned (crlf (LineBuffer.headOf cs)) (LineBuffer.headOf (crlf cs)) := by
  rw [LineBuffer.headOf, LineBuffer.headOf, LineBuffer.headLines, upToLine?_crlf]
  cases LineBuffer.upToLine? 200 cs with
  | none => exact .plain
  | some head => exact .marked

end Text

lemma SlicerStyle.ofProgram_crlf (text : List Char) :
    ofProgram (Text.crlf text) = ofProgram text := by
  have hwords : ∀ s ∈ signatures, '\n' ∉ s.1.toList ∧ '\r' ∉ s.1.toList := by decide
  have hhead : ∀ s ∈ signatures,
      Text.hasInfix s.1.toList (Text.lower (LineBuffer.headOf (Text.crlf text))) =
        Text.hasInfix s.1.toList (Text.lower (LineBuffer.headOf text)) := by
    intro s hs
    obtain ⟨hn, hr⟩ := hwords s hs
    rw [← Text.hasInfix_crlf hn hr (Text.lower (LineBuffer.headOf text)), ← Text.lower_crlf]
    have h := Text.returned_headOf_crlf text
    generalize LineBuffer.headOf (Text.crlf text) = head at h ⊢
    cases h with
    | plain => rfl
    | marked =>
      rw [Text.lower, List.flatMap_append]
      exact Text.hasInfix_concat hr _
  rw [ofProgram, ofProgram, detect, detect, List.find?_congr hhead]

end Toolpath
