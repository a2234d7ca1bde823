import Toolpath.Proofs.Decimal
import Toolpath.Proofs.Text.Returns
import Toolpath.Proofs.Token.Command
import Toolpath.Proofs.Token.Words

/-! Where letters stand. Once a line is in upper case only capitals are left of its ASCII letters,
and every capital begins a word, so the arguments of words have none. -/

namespace Toolpath

variable {c d : Char} {cs part : List Char} {t : Token}

namespace Text

lemma toNat_of_isLower (h : c.isLower) : 97 ≤ c.toNat ∧ c.toNat ≤ 122 := by
  rw [Char.isLower, Bool.and_eq_true, decide_eq_true_eq, decide_eq_true_eq] at h
  exact ⟨UInt32.le_iff_toNat_le.mp h.1, UInt32.le_iff_toNat_le.mp h.2⟩

lemma of_isLower_ofNat {n : Nat} (h : (Char.ofNat n).isLower) : 97 ≤ n ∧ n ≤ 122 := by
  have hbounds := toNat_of_isLower h
  rw [Char.toNat_ofNat] at hbounds
  split at hbounds <;> omega

lemma not_isLower_of_mem_upperChar (h : d ∈ upperChar c) : ¬ d.isLower := by
  have hexpansions : ∀ e ∈ upperExpansions, ∀ m ∈ e.2, ¬ (Char.ofNat m).isLower := by
    decide +kernel
  have hruns : ∀ r ∈ upperRuns, 122 < r.1 + r.2.2.2 ∨ r.2.1 + r.2.2.2 < 97 := by decide +kernel
  simp only [upperChar] at h
  split at h
  · rw [List.mem_singleton.mp h, Char.isLower_toUpper_eq_false]
    exact Bool.false_ne_true
  · next hascii =>
    split at h
    · next ms hms =>
      obtain ⟨m, hm, rfl⟩ := List.mem_map.mp h
      obtain ⟨front, back, heq, -⟩ := List.lookup_eq_some_iff.mp hms
      exact hexpansions (c.toNat, ms) (by rw [heq]; simp) m hm
    · split at h
      · next lo hi step shift hrun =>
        have hshift := hruns _ (List.mem_of_find?_eq_some hrun)
        have hrange := List.find?_some hrun
        simp only [Bool.and_eq_true, decide_eq_true_eq] at hrange
        rw [List.mem_singleton.mp h]
        intro hlower
        have hbounds := of_isLower_ofNat hlower
        dsimp only at hshift
        omega
      · rw [List.mem_singleton.mp h]
        intro hlower
        have hbounds := toNat_of_isLower hlower
        omega

lemma not_isLower_of_mem_upper (h : d ∈ upper cs) : ¬ d.isLower := by
  obtain ⟨c, -, hc⟩ := List.mem_flatMap.mp h
  exact not_isLower_of_mem_upperChar hc

lemma subset_of_mem_splitOn (h : part ∈ splitOn d cs) : part ⊆ cs := by
  induction cs generalizing part with
  | nil =>
    rw [List.mem_singleton.mp h]
    exact List.Subset.refl _
  | cons c cs ih =>
    rw [splitOn_cons] at h
    split at h
    · rcases List.mem_cons.mp h with rfl | h
      · exact List.nil_subset _
      · exact List.subset_cons_of_subset c (ih h)
    · obtain ⟨first, rest, heq⟩ := List.exists_cons_of_ne_nil (splitOn_ne_nil d cs)
      rw [heq] at h ih
      rcases List.mem_cons.mp h with rfl | h
      · exact List.cons_subset_cons c (ih List.mem_cons_self)
      · exact List.subset_cons_of_subset c (ih (List.mem_cons_of_mem _ h))

end Text

namespace Command

lemma isUpper_eq (c : Char) : c.isUpper = isLetter c := by
  rw [Char.isUpper, isLetter, Bool.decide_and]
  rfl

lemma beforeWord_subset (cs : List Char) : beforeWord cs ⊆ cs := by
  induction cs using beforeWord.induct with
  | case1 c d cs h =>
    rw [beforeWord, if_pos h]
    exact List.nil_subset _
  | case2 c d cs h ih =>
    rw [beforeWord, if_neg h]
    exact List.cons_subset_cons c ih
  | case3 cs h =>
    rw [beforeWord]
    · exact List.Subset.refl _
    · exact h

lemma arguments_subset (h : Head) : h.arguments ⊆ h.rest := by
  rw [Head.arguments]
  split
  · exact List.nil_subset _
  · exact beforeWord_subset h.rest

lemma text_subset (code : List Char) : text code ⊆ Text.upper code := by
  have hline : upperLine code ⊆ Text.upper code := (List.takeWhile_prefix _).subset
  simp only [text]
  split
  · exact hline
  · next h hhead =>
    obtain ⟨front, hfront⟩ := exists_front hhead
    have hrest : h.rest ⊆ upperLine code := by
      rw [hfront]
      exact List.subset_append_right _ _
    refine List.Subset.trans (List.append_subset.mpr ⟨List.take_subset _ _, ?_⟩) hline
    exact List.Subset.trans (arguments_subset h) hrest

end Command

namespace Token

lemma scan_cons (c : Char) (cs : List Char) :
    scan (c :: cs) = if Command.isLetter c then ([], ⟨c, (scan cs).1⟩ :: split cs)
      else (c :: (scan cs).1, split cs) := rfl

lemma scan_subset (cs : List Char) :
    (scan cs).1 ⊆ cs.filter (!Command.isLetter ·) ∧
      ∀ t ∈ split cs, t.argument ⊆ cs.filter (!Command.isLetter ·) := by
  induction cs with
  | nil => exact ⟨List.nil_subset _, nofun⟩
  | cons c cs ih =>
    obtain ⟨hfirst, htokens⟩ := ih
    rw [split_eq, scan_cons]
    by_cases hc : Command.isLetter c
    · have hfilter : (c :: cs).filter (!Command.isLetter ·) = cs.filter (!Command.isLetter ·) :=
        List.filter_cons_of_neg (by simp [hc])
      rw [if_pos hc, hfilter]
      refine ⟨List.nil_subset _, fun t ht => ?_⟩
      rcases List.mem_cons.mp ht with rfl | ht
      · exact hfirst
      · exact htokens t ht
    · have hfilter : (c :: cs).filter (!Command.isLetter ·) =
          c :: cs.filter (!Command.isLetter ·) := List.filter_cons_of_pos (by simp [hc])
      rw [if_neg hc, hfilter]
      exact ⟨List.cons_subset_cons c hfirst,
        fun t ht => List.subset_cons_of_subset c (htokens t ht)⟩

lemma letterless_argument {code : List Char}
    (h : t ∈ split ((Command.text code).filter (!Text.isBlank ·))) :
    Numeral.Letterless t.argument := by
  intro c hc
  have hmem := (scan_subset _).2 t h hc
  rw [List.filter_filter, List.mem_filter, Bool.and_eq_true, Bool.not_eq_true'] at hmem
  obtain ⟨htext, hletter, -⟩ := hmem
  have hupper : c.isUpper = false := by rw [Command.isUpper_eq, hletter]
  have hlower := Text.not_isLower_of_mem_upper (Command.text_subset code htext)
  rw [Char.isAlpha, hupper, Bool.false_or]
  exact hlower

end Token
end Toolpath
