import Mathlib.Data.List.Basic
import Mathlib.Data.List.TakeWhile
import Mathlib.Tactic.Lemma
import Toolpath.Token.Command

/-! White space around text. It has no case, no digit or letter among it, and no mark of its own. -/

namespace Toolpath.Text

variable {c d : Char} {cs pad : List Char}

def blanks : List Nat :=
  [9, 10, 11, 12, 13, 0x20, 0x85, 0xA0, 0x1680, 0x2000, 0x2001, 0x2002, 0x2003, 0x2004, 0x2005,
    0x2006, 0x2007, 0x2008, 0x2009, 0x200A, 0x2028, 0x2029, 0x202F, 0x205F, 0x3000]

lemma toNat_mem_blanks (h : isBlank c) : c.toNat ∈ blanks := by
  simp only [isBlank, Bool.or_eq_true, Bool.and_eq_true, decide_eq_true_iff, beq_iff_eq] at h
  simp only [blanks, List.mem_cons, List.not_mem_nil, or_false]
  omega

lemma forall_blank {P : Char → Prop} (hP : ∀ n ∈ blanks, P (Char.ofNat n)) (h : isBlank c) :
    P c := by
  have hc := hP c.toNat (toNat_mem_blanks h)
  rwa [Char.ofNat_toNat] at hc

lemma upperChar_blank (h : isBlank c) : upperChar c = [c] :=
  forall_blank (P := fun c => upperChar c = [c]) (by decide +kernel) h

lemma not_isDecimalDigit_blank (h : isBlank c) : ¬ isDecimalDigit c :=
  forall_blank (P := fun c => ¬ isDecimalDigit c) (by decide +kernel) h

lemma not_isLetter_blank (h : isBlank c) : ¬ Command.isLetter c :=
  forall_blank (P := fun c => ¬ Command.isLetter c) (by decide +kernel) h

lemma ne_of_isBlank (h : isBlank c) (hd : ¬ isBlank d) : c ≠ d := by
  rintro rfl
  exact hd h

/-! Pads: texts of nothing else. -/

lemma isBlank_of_mem (h : isBlankLine pad) : ∀ c ∈ pad, isBlank c := List.all_eq_true.mp h

lemma notMem_pad (h : isBlankLine pad) (hd : ¬ isBlank d) : d ∉ pad := fun hmem =>
  hd (isBlank_of_mem h d hmem)

lemma isBlankLine_sublist (h : isBlankLine pad) (hsub : cs.Sublist pad) : isBlankLine cs :=
  List.all_eq_true.mpr fun c hc => isBlank_of_mem h c (hsub.subset hc)

lemma upper_append (cs ds : List Char) : upper (cs ++ ds) = upper cs ++ upper ds :=
  List.flatMap_append

lemma upper_eq_self (h : ∀ c ∈ cs, upperChar c = [c]) : upper cs = cs :=
  (List.flatMap_congr h).trans (List.flatMap_singleton' cs)

lemma upper_pad (h : isBlankLine pad) : upper pad = pad :=
  upper_eq_self fun c hc => upperChar_blank (isBlank_of_mem h c hc)

lemma filter_pad (h : isBlankLine pad) : pad.filter (!isBlank ·) = [] := by
  apply List.filter_eq_nil_iff.mpr
  intro c hc
  simp [isBlank_of_mem h c hc]

lemma trimStart_pad_append (h : isBlankLine pad) (cs : List Char) :
    trimStart (pad ++ cs) = trimStart cs :=
  List.dropWhile_append_of_pos (isBlank_of_mem h)

lemma trimStart_pad (h : isBlankLine pad) : trimStart pad = [] :=
  List.dropWhile_eq_nil_iff.mpr (isBlank_of_mem h)

lemma trimStart_append_pad (h : isBlankLine pad) (cs : List Char) :
    trimStart (cs ++ pad) = trimStart cs ++ pad ∨
      trimStart cs = [] ∧ trimStart (cs ++ pad) = [] := by
  by_cases hcs : isBlankLine cs
  · right
    rw [trimStart_pad_append hcs, trimStart_pad h, trimStart_pad hcs]
    exact ⟨rfl, rfl⟩
  · left
    have hne : trimStart cs ≠ [] := by
      rwa [Ne, trimStart, List.dropWhile_eq_nil_iff, ← List.all_eq_true]
    rw [trimStart, List.dropWhile_append, ← trimStart,
      if_neg (mt List.isEmpty_iff.mp hne)]

lemma trimStart_suffix (cs : List Char) : trimStart cs <:+ cs := List.dropWhile_suffix _

lemma exists_pads (cs : List Char) :
    ∃ pre post, isBlankLine pre ∧ isBlankLine post ∧ cs = pre ++ (trim cs ++ post) := by
  have hend : trimEnd (trimStart cs) ++ ((trimStart cs).reverse.takeWhile isBlank).reverse =
      trimStart cs := by
    rw [trimEnd, ← List.reverse_append, List.takeWhile_append_dropWhile, List.reverse_reverse]
  refine ⟨cs.takeWhile isBlank, ((trimStart cs).reverse.takeWhile isBlank).reverse,
    List.all_takeWhile, ?_, ?_⟩
  · rw [isBlankLine, List.all_reverse]
    exact List.all_takeWhile
  · rw [trim, hend]
    exact List.takeWhile_append_dropWhile.symm

/-- What keeps white space white: in front of a text it stays as it is, behind it other white space
may take its place. -/
structure PassesPads (f : List Char → List Char) : Prop where
  front (pad cs : List Char) : isBlankLine pad → f (pad ++ cs) = pad ++ f cs
  back (cs pad : List Char) : isBlankLine pad →
    ∃ post, isBlankLine post ∧ f (cs ++ pad) = f cs ++ post

namespace PassesPads

variable {f g : List Char → List Char}

lemma comp (hg : PassesPads g) (hf : PassesPads f) : PassesPads (g ∘ f) where
  front pad cs hpad := by
    rw [Function.comp_apply, hf.front pad cs hpad, hg.front pad (f cs) hpad, Function.comp_apply]
  back cs pad hpad := by
    obtain ⟨post, hpost, hf⟩ := hf.back cs pad hpad
    obtain ⟨last, hlast, hg⟩ := hg.back (f cs) post hpost
    exact ⟨last, hlast, by rw [Function.comp_apply, hf, hg, Function.comp_apply]⟩

lemma filter_trim (hf : PassesPads f) (cs : List Char) :
    (f (trim cs)).filter (!isBlank ·) = (f cs).filter (!isBlank ·) := by
  obtain ⟨pre, post, hpre, hpost, heq⟩ := exists_pads cs
  obtain ⟨last, hlast, hback⟩ := hf.back (trim cs) post hpost
  have hcs : f cs = pre ++ (f (trim cs) ++ last) := by rw [← hback, ← hf.front _ _ hpre, ← heq]
  rw [hcs, List.filter_append, List.filter_append, filter_pad hpre, filter_pad hlast,
    List.nil_append, List.append_nil]

end PassesPads
end Toolpath.Text
