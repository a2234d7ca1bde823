import Toolpath.Proofs.Text.Blank
import Toolpath.Token.Comment

/-! Comments on lines. None is left of them, and where one stands alone or behind a line no other
begins or ends early. -/

namespace Toolpath

variable {s : CommentState} {c : Char} {line rest pad text : List Char}

lemma dropComments_sublist (s : CommentState) (cs : List Char) :
    (dropComments s cs).Sublist cs := by
  induction cs generalizing s with
  | nil => cases s <;> exact List.Sublist.refl []
  | cons c cs ih =>
    cases s <;> simp only [dropComments]
    case code =>
      by_cases hopen : c = '('
      · rw [if_pos hopen]
        exact (ih _).cons c
      · rw [if_neg hopen]
        split
        · exact (ih _).cons c
        · exact (ih _).cons_cons c
    case enclosed => exact (ih _).cons c
    case trailing =>
      split
      · exact (ih _).cons_cons c
      · exact (ih _).cons c

/-! Plain text. -/

def isPlain (c : Char) : Bool := c != '(' && c != ';'

lemma dropComments_code_cons (h : isPlain c) (cs : List Char) :
    dropComments .code (c :: cs) = c :: dropComments .code cs := by
  simp only [isPlain, Bool.and_eq_true, bne_iff_ne] at h
  rw [dropComments, if_neg h.1, if_neg h.2]

lemma stripComments_append (h : line.all isPlain) (rest : List Char) :
    stripComments (line ++ rest) = line ++ stripComments rest := by
  induction line with
  | nil => rfl
  | cons c cs ih =>
    rw [List.all_cons, Bool.and_eq_true] at h
    rw [List.cons_append, stripComments, dropComments_code_cons h.1]
    exact congrArg (c :: ·) (ih h.2)

lemma stripComments_eq_self (h : line.all isPlain) : stripComments line = line := by
  have hnothing : stripComments [] = [] := rfl
  have happend := stripComments_append h []
  rwa [hnothing, List.append_nil] at happend

lemma isPlain_dropComments (s : CommentState) (cs : List Char) :
    (dropComments s cs).all isPlain := by
  induction cs generalizing s with
  | nil => cases s <;> rfl
  | cons c cs ih =>
    cases s <;> simp only [dropComments]
    case code =>
      by_cases hopen : c = '('
      · rw [if_pos hopen]
        exact ih _
      · rw [if_neg hopen]
        split
        · exact ih _
        · next hsemicolon => simp [isPlain, hopen, hsemicolon, ih]
    case enclosed => exact ih _
    case trailing =>
      split
      · next hnewline => simp [hnewline, isPlain, ih]
      · exact ih _

/-! Comments that are closed. -/

def enclose (text : List Char) : List Char := '(' :: text ++ [')']

lemma dropComments_enclosed (h : ')' ∉ text) (cs : List Char) :
    dropComments .enclosed (text ++ ')' :: cs) = dropComments .code cs := by
  induction text with
  | nil => simp [dropComments]
  | cons c text ih =>
    obtain ⟨hc, htext⟩ := List.ne_and_not_mem_of_not_mem_cons h
    rw [List.cons_append, dropComments, if_neg hc.symm, ih htext]

lemma stripComments_enclose (h : ')' ∉ text) (cs : List Char) :
    stripComments (enclose text ++ cs) = stripComments cs := by
  have hclosed : ')' ∈ text ++ ')' :: cs := by simp
  have hshape : enclose text ++ cs = '(' :: (text ++ ')' :: cs) := by simp [enclose]
  rw [hshape, stripComments, dropComments, if_pos rfl, if_pos hclosed, dropComments_enclosed h]
  rfl

lemma dropComments_trailing {cs : List Char} (h : '\n' ∉ cs) : dropComments .trailing cs = [] := by
  induction cs with
  | nil => rfl
  | cons c cs ih =>
    obtain ⟨hc, hcs⟩ := List.ne_and_not_mem_of_not_mem_cons h
    rw [dropComments, if_neg hc.symm, ih hcs]

lemma stripComments_trailing (h : '\n' ∉ text) : stripComments (';' :: text) = [] := by
  rw [stripComments, dropComments, if_neg (by decide), if_pos rfl, dropComments_trailing h]

inductive Closed : List Char → Prop
  | nil : Closed []
  | code (c : Char) (line : List Char) : isPlain c → Closed line → Closed (c :: line)
  | enclosed (text line : List Char) : ')' ∉ text → Closed line → Closed (enclose text ++ line)
  | trailing (text : List Char) : '\n' ∉ text → Closed (';' :: text)

lemma Closed.append {plain : List Char} (hplain : plain.all isPlain) (h : Closed line) :
    Closed (plain ++ line) := by
  induction plain with
  | nil => exact h
  | cons c plain ih =>
    rw [List.all_cons, Bool.and_eq_true] at hplain
    exact .code c _ hplain.1 (ih hplain.2)

lemma Closed.stripComments_append (h : Closed line) (hrest : '\n' ∉ rest)
    (hnothing : stripComments rest = []) : stripComments (line ++ rest) = stripComments line := by
  induction h with
  | nil => exact hnothing
  | code c line hc _ ih =>
    rw [List.cons_append, stripComments, stripComments, dropComments_code_cons hc,
      dropComments_code_cons hc]
    exact congrArg (c :: ·) ih
  | enclosed text line htext _ ih =>
    rw [List.append_assoc, stripComments_enclose htext, stripComments_enclose htext, ih]
  | trailing text htext =>
    have hall : '\n' ∉ text ++ rest := by simp [htext, hrest]
    rw [List.cons_append, stripComments_trailing hall, stripComments_trailing htext]

/-! White space at either end. -/

lemma isPlain_pad (h : Text.isBlankLine pad) : pad.all isPlain := by
  apply List.all_eq_true.mpr
  intro c hc
  have hblank := Text.isBlank_of_mem h c hc
  simp [isPlain, Text.ne_of_isBlank hblank (d := '(') (by decide),
    Text.ne_of_isBlank hblank (d := ';') (by decide)]

lemma exists_dropComments_append (h : Text.isBlankLine pad) (s : CommentState) (cs : List Char) :
    ∃ post, Text.isBlankLine post ∧ dropComments s (cs ++ pad) = dropComments s cs ++ post := by
  induction cs generalizing s with
  | nil =>
    refine ⟨_, Text.isBlankLine_sublist h (dropComments_sublist s pad), ?_⟩
    cases s <;> rfl
  | cons c cs ih =>
    have hclosing : ')' ∉ pad := Text.notMem_pad h (by decide)
    cases s <;> simp only [List.cons_append, dropComments, List.mem_append, hclosing, or_false]
    case code =>
      by_cases hopen : c = '('
      · rw [if_pos hopen, if_pos hopen]
        exact ih _
      · rw [if_neg hopen, if_neg hopen]
        split
        · exact ih _
        · obtain ⟨post, hpost, heq⟩ := ih .code
          exact ⟨post, hpost, congrArg (c :: ·) heq⟩
    case enclosed => exact ih _
    case trailing =>
      split
      · obtain ⟨post, hpost, heq⟩ := ih .code
        exact ⟨post, hpost, congrArg (c :: ·) heq⟩
      · exact ih _

lemma passesPads_stripComments : Text.PassesPads stripComments where
  front _ cs hpad := stripComments_append (isPlain_pad hpad) cs
  back cs _ hpad := exists_dropComments_append hpad .code cs

end Toolpath
