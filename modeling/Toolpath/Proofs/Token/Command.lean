import Toolpath.Proofs.Text.Blank

/-! The commands of a line between white space, which changes neither where the free text of an M
code begins nor what stands before it. -/

namespace Toolpath

open Text (isBlank isBlankLine trimStart isDecimalDigit)

variable {c d : Char} {cs pad front : List Char}

namespace Command

lemma takeWhile_append_pad {p : Char → Bool} (hp : ∀ c, isBlank c → ¬ p c) (hpad : isBlankLine pad)
    (cs : List Char) : (cs ++ pad).takeWhile p = cs.takeWhile p := by
  induction cs with
  | nil =>
    cases pad with
    | nil => rfl
    | cons c pad => exact List.takeWhile_cons_of_neg (hp c (Text.isBlank_of_mem hpad c (by simp)))
  | cons c cs ih =>
    rw [List.cons_append, List.takeWhile_cons, List.takeWhile_cons, ih]

lemma head?_ne_append_pad (hpad : isBlankLine pad) (hd : ¬ isBlank d) (h : cs.head? ≠ some d) :
    (cs ++ pad).head? ≠ some d := by
  cases cs with
  | nil => exact fun hhead => Text.notMem_pad hpad hd (List.mem_of_head? hhead)
  | cons c cs => exact h

lemma digits?_append_pad (hpad : isBlankLine pad) (cs : List Char) :
    digits? (cs ++ pad) = (digits? cs).map fun read => (read.1, read.2 ++ pad) := by
  have hdigits := takeWhile_append_pad (fun c => Text.not_isDecimalDigit_blank (c := c)) hpad
  rcases Text.trimStart_append_pad hpad cs with htrim | ⟨hnone, hnone'⟩
  · have hlength : ((trimStart cs).takeWhile isDecimalDigit).length ≤ (trimStart cs).length :=
      (List.takeWhile_sublist _).length_le
    simp only [digits?, htrim, hdigits, List.drop_append_of_le_length hlength]
    split <;> rfl
  · simp [digits?, hnone, hnone']

lemma digits?_suffix {read : List Char × List Char} (h : digits? cs = some read) :
    read.2 <:+ cs := by
  simp only [digits?] at h
  split at h
  · cases h
  · cases h
    exact (List.drop_suffix _ _).trans (Text.trimStart_suffix cs)

lemma skipLineNumber_of_head (h : cs.head? ≠ some 'N') : skipLineNumber cs = cs := by
  unfold skipLineNumber
  split
  · exact absurd rfl h
  · rfl

lemma skipLineNumber_append_pad (hpad : isBlankLine pad) (cs : List Char) :
    skipLineNumber (cs ++ pad) = skipLineNumber cs ++ pad ∨
      skipLineNumber cs = [] ∧ skipLineNumber (cs ++ pad) = [] := by
  by_cases h : cs.head? = some 'N'
  · obtain ⟨rest, rfl⟩ := List.head?_eq_some_iff.mp h
    rw [List.cons_append, skipLineNumber, skipLineNumber, digits?_append_pad hpad]
    cases digits? rest with
    | none => exact Or.inl rfl
    | some read => exact Text.trimStart_append_pad hpad read.2
  · left
    rw [skipLineNumber_of_head h, skipLineNumber_of_head (head?_ne_append_pad hpad (by decide) h)]

lemma skipLineNumber_suffix (cs : List Char) : skipLineNumber cs <:+ cs := by
  unfold skipLineNumber
  split
  · split
    · next hread =>
      have hsuffix := (Text.trimStart_suffix _).trans (digits?_suffix hread)
      exact hsuffix.trans (List.suffix_cons _ _)
    · exact List.suffix_rfl
  · exact List.suffix_rfl

/-! The head: an M code, perhaps with a fraction. -/

def withFraction (whole : List Char) : List Char → Head
  | '.' :: after =>
    let fraction := after.takeWhile isDecimalDigit
    if fraction.isEmpty then ⟨whole, '.' :: after⟩
    else ⟨whole ++ '.' :: fraction, after.drop fraction.length⟩
  | rest => ⟨whole, rest⟩

def leading? : List Char → Option Head
  | 'M' :: cs => (digits? cs).map fun read => withFraction read.1 read.2
  | _ => none

lemma leading?_of_head (h : cs.head? ≠ some 'M') : leading? cs = none := by
  unfold leading?
  split
  · exact absurd rfl h
  · rfl

lemma withFraction_of_head {whole rest : List Char} (h : rest.head? ≠ some '.') :
    withFraction whole rest = ⟨whole, rest⟩ := by
  unfold withFraction
  split
  · exact absurd rfl h
  · rfl

lemma head?_eq (cs : List Char) : head? cs = leading? (skipLineNumber (trimStart cs)) := by
  unfold head?
  split
  · next cs heq =>
    rw [heq, leading?]
    cases digits? cs with
    | none => rfl
    | some read =>
      obtain ⟨whole, rest⟩ := read
      simp only [Option.bind_eq_bind, Option.bind_some, Option.map_some]
      split
      · rw [withFraction]
        split <;> rfl
      · next hpoint =>
        rw [withFraction_of_head]
        intro h
        obtain ⟨after, rfl⟩ := List.head?_eq_some_iff.mp h
        exact hpoint after rfl
  · next hother =>
    rw [leading?_of_head]
    intro h
    obtain ⟨cs, hcs⟩ := List.head?_eq_some_iff.mp h
    exact hother cs hcs

def Head.append (h : Head) (pad : List Char) : Head := { h with rest := h.rest ++ pad }

lemma withFraction_append_pad (hpad : isBlankLine pad) (whole rest : List Char) :
    withFraction whole (rest ++ pad) = (withFraction whole rest).append pad := by
  by_cases h : rest.head? = some '.'
  · obtain ⟨after, rfl⟩ := List.head?_eq_some_iff.mp h
    have hdigits := takeWhile_append_pad (fun c => Text.not_isDecimalDigit_blank (c := c)) hpad
    have hlength : (after.takeWhile isDecimalDigit).length ≤ after.length :=
      (List.takeWhile_sublist _).length_le
    simp only [List.cons_append, withFraction, hdigits, List.drop_append_of_le_length hlength]
    split <;> rfl
  · rw [withFraction_of_head h, withFraction_of_head (head?_ne_append_pad hpad (by decide) h)]
    rfl

lemma withFraction_suffix (whole rest : List Char) : (withFraction whole rest).rest <:+ rest := by
  unfold withFraction
  split
  · dsimp only
    split
    · exact List.suffix_rfl
    · exact (List.drop_suffix _ _).trans (List.suffix_cons _ _)
  · exact List.suffix_rfl

lemma leading?_append_pad (hpad : isBlankLine pad) (cs : List Char) :
    leading? (cs ++ pad) = (leading? cs).map (·.append pad) := by
  by_cases h : cs.head? = some 'M'
  · obtain ⟨rest, rfl⟩ := List.head?_eq_some_iff.mp h
    rw [List.cons_append, leading?, leading?, digits?_append_pad hpad]
    cases digits? rest with
    | none => rfl
    | some read => exact congrArg some (withFraction_append_pad hpad read.1 read.2)
  · rw [leading?_of_head h, leading?_of_head (head?_ne_append_pad hpad (by decide) h)]
    rfl

lemma head?_append_pad (hpad : isBlankLine pad) (cs : List Char) :
    head? (cs ++ pad) = (head? cs).map (·.append pad) := by
  rw [head?_eq, head?_eq]
  rcases Text.trimStart_append_pad hpad cs with htrim | ⟨hnone, hnone'⟩
  · rw [htrim]
    rcases skipLineNumber_append_pad hpad (trimStart cs) with hskip | ⟨hskip, hskip'⟩
    · rw [hskip, leading?_append_pad hpad]
    · rw [hskip, hskip']
      rfl
  · rw [hnone, hnone']
    rfl

lemma head?_pad_append (hpad : isBlankLine pad) (cs : List Char) :
    head? (pad ++ cs) = head? cs := by
  rw [head?_eq, head?_eq, Text.trimStart_pad_append hpad]

lemma exists_front {h : Head} (hhead : head? cs = some h) : ∃ front, cs = front ++ h.rest := by
  rw [head?_eq] at hhead
  have hsuffix := (skipLineNumber_suffix _).trans (Text.trimStart_suffix cs)
  unfold leading? at hhead
  split at hhead
  · next heq =>
    obtain ⟨read, hread, rfl⟩ := Option.map_eq_some_iff.mp hhead
    rw [heq] at hsuffix
    have hrest := (withFraction_suffix read.1 read.2).trans (digits?_suffix hread)
    obtain ⟨front, hfront⟩ := (hrest.trans (List.suffix_cons 'M' _)).trans hsuffix
    exact ⟨front, hfront.symm⟩
  · cases hhead

/-! The cut behind the head. -/

def cut (line : List Char) : List Char :=
  match head? line with
  | none => line
  | some h => line.take (line.length - h.rest.length) ++ h.arguments

lemma cut_of_head? {h : Head} (hhead : head? (front ++ h.rest) = some h) :
    cut (front ++ h.rest) = front ++ h.arguments := by
  simp [cut, hhead]

lemma beforeWord_cons_pad (hpad : isBlankLine pad) (c : Char) :
    beforeWord (c :: pad) = c :: pad := by
  induction pad generalizing c with
  | nil => rfl
  | cons d pad ih =>
    have hd : ¬ isLetter d := Text.not_isLetter_blank (Text.isBlank_of_mem hpad d (by simp))
    have hrest : isBlankLine pad := Text.isBlankLine_sublist hpad (List.sublist_cons_self d pad)
    rw [beforeWord, if_neg (by simp [hd]), ih hrest d]

lemma exists_beforeWord_append (hpad : isBlankLine pad) (cs : List Char) :
    ∃ post, isBlankLine post ∧ beforeWord (cs ++ pad) = beforeWord cs ++ post := by
  induction cs using beforeWord.induct with
  | case1 c d cs hletters =>
    refine ⟨[], rfl, ?_⟩
    rw [List.cons_append, List.cons_append, beforeWord, beforeWord, if_pos hletters,
      if_pos hletters]
    rfl
  | case2 c d cs hletters ih =>
    obtain ⟨post, hpost, heq⟩ := ih
    refine ⟨post, hpost, ?_⟩
    rw [List.cons_append, List.cons_append, beforeWord, beforeWord, if_neg hletters,
      if_neg hletters]
    exact congrArg (c :: ·) heq
  | case3 cs hshort =>
    refine ⟨pad, hpad, ?_⟩
    match cs with
    | [] =>
      cases pad with
      | nil => rfl
      | cons d pad =>
        have hrest := Text.isBlankLine_sublist hpad (List.sublist_cons_self d pad)
        exact beforeWord_cons_pad hrest d
    | [c] => exact beforeWord_cons_pad hpad c
    | c :: d :: cs => exact (hshort c d cs rfl).elim

lemma exists_arguments_append (hpad : isBlankLine pad) (h : Head) :
    ∃ post, isBlankLine post ∧ (h.append pad).arguments = h.arguments ++ post := by
  have hcode : (h.append pad).code = h.code := rfl
  rw [Head.arguments, Head.arguments, hcode]
  split
  · exact ⟨[], rfl, rfl⟩
  · exact exists_beforeWord_append hpad h.rest

lemma passesPads_cut : Text.PassesPads cut where
  front pad cs hpad := by
    have hsame := head?_pad_append hpad cs
    cases hhead : head? cs with
    | none => simp [cut, hsame, hhead]
    | some h =>
      obtain ⟨front, rfl⟩ := exists_front hhead
      rw [cut_of_head? hhead, ← List.append_assoc, ← List.append_assoc]
      apply cut_of_head?
      rw [List.append_assoc, hsame, hhead]
  back cs pad hpad := by
    have hpadded := head?_append_pad hpad cs
    cases hhead : head? cs with
    | none => exact ⟨pad, hpad, by simp [cut, hpadded, hhead]⟩
    | some h =>
      obtain ⟨front, rfl⟩ := exists_front hhead
      obtain ⟨post, hpost, harguments⟩ := exists_arguments_append hpad h
      refine ⟨post, hpost, ?_⟩
      rw [hhead, Option.map_some, List.append_assoc] at hpadded
      rw [cut_of_head? hhead, List.append_assoc, List.append_assoc, ← harguments]
      exact cut_of_head? (h := h.append pad) hpadded

lemma passesPads_upperLine : Text.PassesPads upperLine where
  front pad cs hpad := by
    rw [upperLine, Text.upper_append, Text.upper_pad hpad]
    apply List.takeWhile_append_of_pos
    intro c hc
    exact bne_iff_ne.mpr (Text.ne_of_isBlank (Text.isBlank_of_mem hpad c hc) (by decide))
  back cs pad hpad := by
    rw [upperLine, Text.upper_append, Text.upper_pad hpad, List.takeWhile_append]
    split
    · next hwhole =>
      have hcs : upperLine cs = Text.upper cs := (List.takeWhile_prefix _).eq_of_length hwhole
      rw [hcs]
      exact ⟨_, Text.isBlankLine_sublist hpad (List.takeWhile_sublist _), rfl⟩
    · exact ⟨[], rfl, (List.append_nil _).symm⟩

lemma passesPads_text : Text.PassesPads text := passesPads_cut.comp passesPads_upperLine

end Command

end Toolpath
