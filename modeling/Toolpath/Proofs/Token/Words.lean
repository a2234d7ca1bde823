import Toolpath.Proofs.Numeral
import Toolpath.Token.Instruction

/-! Words that are read in full: a letter and a number in plain digits. -/

namespace Toolpath

variable {letter : Char} {argument cs ds : List Char}

namespace Token

def scan (cs : List Char) : List Char × List Token :=
  cs.foldr (fun c (argument, tokens) =>
    if Command.isLetter c then ([], ⟨c, argument⟩ :: tokens) else (c :: argument, tokens)) ([], [])

lemma split_eq (cs : List Char) : split cs = (scan cs).2 := rfl

lemma scan_letter (h : Command.isLetter letter) (cs : List Char) :
    scan (letter :: cs) = ([], ⟨letter, (scan cs).1⟩ :: split cs) := by
  rw [scan, List.foldr_cons]
  exact if_pos h

lemma scan_append (h : ∀ c ∈ argument, ¬ Command.isLetter c) (cs : List Char) :
    scan (argument ++ cs) = (argument ++ (scan cs).1, split cs) := by
  induction argument with
  | nil => rfl
  | cons c argument ih =>
    have hc : ¬ Command.isLetter c := h c List.mem_cons_self
    have hrest := ih fun d hd => h d (List.mem_cons_of_mem c hd)
    rw [scan] at hrest
    rw [List.cons_append, scan, List.foldr_cons, hrest]
    exact if_neg hc

lemma split_word (hletter : Command.isLetter letter) (h : ∀ c ∈ argument, ¬ Command.isLetter c)
    (hnext : (scan cs).1 = []) :
    split (letter :: argument ++ cs) = ⟨letter, argument⟩ :: split cs := by
  have hargument := scan_append h cs
  have hsplit : split (argument ++ cs) = split cs := by rw [split_eq, hargument]
  rw [List.cons_append, split_eq, scan_letter hletter, hsplit, hargument, hnext, List.append_nil]

lemma split_whole (hletter : Command.isLetter letter) (h : Numeral.Whole ds)
    (hnext : (scan cs).1 = []) : split (letter :: ds ++ cs) = ⟨letter, ds⟩ :: split cs :=
  split_word hletter (fun c hc => Numeral.not_isLetter_digit (h.isDigit c hc)) hnext

lemma finite?_whole (h : Numeral.Whole ds) (letter : Char) :
    (⟨letter, ds⟩ : Token).finite? = some (Float.ofNat (Numeral.digitsValue 0 ds)) := by
  rw [finite?, h.float?_eq]
  exact Option.filter_some_pos h.isFinite

def word (t : Token) : Word := ⟨t.letter, t.value⟩

lemma word_whole (h : Numeral.Whole ds) (letter : Char) :
    word ⟨letter, ds⟩ = ⟨letter, Float.ofNat (Numeral.digitsValue 0 ds)⟩ := by
  rw [word, value, finite?_whole h]

end Token

lemma Instruction.ofTokens_finite {ts : List Token} (h : ∀ t ∈ ts, t.finite?.isSome) :
    ofTokens ts = { words := ts.map Token.word } := by
  have hread (t : Token) (ht : t ∈ ts) : t.finite?.isNone = false := by simpa using h t ht
  have hmalformed : ts.filter Token.isMalformed = [] := by
    apply List.filter_eq_nil_iff.mpr
    intro t ht
    simp [Token.isMalformed, hread t ht]
  have hmix : ts.filterMap Token.mix? = [] := by
    apply List.filterMap_eq_nil_iff.mpr
    intro t ht
    simp [Token.mix?, hread t ht]
  rw [ofTokens, hmalformed, hmix]
  rfl

end Toolpath
