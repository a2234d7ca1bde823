import Toolpath.Proofs.Token.Finite
import Toolpath.Proofs.Token.Head

/-! Nothing is lost between the commands of a line and its words. Their letters and arguments make up
the commands again, and what cannot be read of them is reported as it is written. -/

namespace Toolpath

variable {c : Char} {cs : List Char} {t : Token}

namespace Token

def spelled (t : Token) : List Char := t.letter :: t.argument

lemma scan_fst (cs : List Char) : (scan cs).1 = cs.takeWhile (!Command.isLetter ·) := by
  induction cs with
  | nil => rfl
  | cons c cs ih =>
    rw [scan_cons]
    by_cases hc : Command.isLetter c
    · rw [if_pos hc, List.takeWhile_cons_of_neg (by simp [hc])]
    · rw [if_neg hc, List.takeWhile_cons_of_pos (by simp [hc]), ih]

lemma scan_joined (cs : List Char) : (scan cs).1 ++ (split cs).flatMap spelled = cs := by
  induction cs with
  | nil => rfl
  | cons c cs ih =>
    rw [split_eq, scan_cons]
    by_cases hc : Command.isLetter c
    · rw [if_pos hc, List.nil_append, List.flatMap_cons, spelled, List.cons_append, ih]
    · rw [if_neg hc, List.cons_append, ih]

lemma flatMap_split (cs : List Char) :
    (split cs).flatMap spelled = cs.dropWhile (!Command.isLetter ·) := by
  have hjoined : cs.takeWhile (!Command.isLetter ·) ++ (split cs).flatMap spelled =
      cs.takeWhile (!Command.isLetter ·) ++ cs.dropWhile (!Command.isLetter ·) := by
    rw [List.takeWhile_append_dropWhile, ← scan_fst, scan_joined]
  -- what stands before the first letter belongs to no word
  exact List.append_cancel_left hjoined

lemma letters_split (cs : List Char) :
    (split cs).map letter = cs.filter Command.isLetter := by
  induction cs with
  | nil => rfl
  | cons c cs ih =>
    rw [split_eq, scan_cons]
    by_cases hc : Command.isLetter c
    · rw [if_pos hc, List.filter_cons_of_pos hc, List.map_cons, ih]
    · rw [if_neg hc, List.filter_cons_of_neg hc, ih]

lemma isLetter_of_mem_split (h : t ∈ split cs) : Command.isLetter t.letter := by
  have hmem : t.letter ∈ (split cs).map letter := List.mem_map_of_mem h
  rw [letters_split] at hmem
  exact List.of_mem_filter hmem

lemma not_isLetter_of_mem_argument (h : t ∈ split cs) (hc : c ∈ t.argument) :
    ¬ Command.isLetter c := by
  have hmem := (scan_subset cs).2 t h hc
  simpa using List.of_mem_filter hmem

structure Unreadable (t : Token) : Prop where
  ne_nil : t.argument ≠ []
  not_finite : ∀ d : Numeral.Decimal, d.text = t.argument → d.Overflows
  not_mix : ¬ (t.letter = 'E' ∧ ':' ∈ t.argument)

lemma isMix_iff : t.isMix ↔ t.letter = 'E' ∧ ':' ∈ t.argument := by
  rw [isMix, Bool.and_eq_true, decide_eq_true_iff, List.contains_iff_mem]

lemma finite?_eq_none_iff (h : Numeral.Letterless t.argument) :
    t.finite? = none ↔ ∀ d : Numeral.Decimal, d.text = t.argument → d.Overflows := by
  rw [finite?, Option.filter_eq_none_iff]
  constructor
  · intro hnone d hd
    have hread := d.float?_text
    rw [hd] at hread
    exact not_not.mp (mt d.isFinite_toFloat.mpr (hnone _ hread))
  · intro hover x hx
    obtain ⟨d, hd⟩ := Numeral.exists_decimal h hx
    rw [Numeral.float?_eq_toFloat hd hx, d.isFinite_toFloat]
    exact not_not.mpr (hover d hd)

lemma isMalformed_iff (h : Numeral.Letterless t.argument) : t.isMalformed ↔ t.Unreadable := by
  have hmix : t.mix?.isNone ↔ ¬ (t.letter = 'E' ∧ ':' ∈ t.argument) := by
    rw [← isMix_iff, mix?_eq h]
    cases t.isMix with
    | true => exact iff_of_false Bool.false_ne_true (not_not.mpr rfl)
    | false => exact iff_of_true rfl Bool.false_ne_true
  rw [isMalformed, Bool.and_eq_true, Bool.and_eq_true, hmix, Option.isNone_iff_eq_none,
    finite?_eq_none_iff h, Bool.not_eq_true', List.isEmpty_eq_false_iff]
  constructor
  · rintro ⟨⟨hfinite, hne⟩, hnot⟩
    exact ⟨hne, hfinite, hnot⟩
  · rintro ⟨hne, hfinite, hnot⟩
    exact ⟨⟨hfinite, hne⟩, hnot⟩

lemma value_eq_zero (h : Numeral.Letterless t.argument) (hzero : t.argument = [] ∨ t.Unreadable) :
    t.value = 0.0 := by
  rcases hzero with hnil | hunreadable
  · have hmix : ¬ t.isMix := by simp [isMix_iff, hnil]
    refine (isFiniteAs_value h hmix).zero fun d hd => absurd ?_ d.ne_nil
    rw [hnil, Numeral.Decimal.text, List.append_eq_nil_iff, List.append_eq_nil_iff] at hd
    refine ⟨hd.2.1, ?_⟩
    rcases d.tail_eq with ⟨-, hfraction⟩ | htail
    · exact hfraction
    · rw [htail] at hd
      exact absurd hd.2.2 (List.cons_ne_nil _ _)
  · have hmix : ¬ t.isMix := mt isMix_iff.mp hunreadable.not_mix
    exact (isFiniteAs_value h hmix).zero hunreadable.not_finite

end Token

namespace Text

lemma eq_of_mem_upperChar (hascii : c.toNat < 128) (h : 'M' ∈ upperChar c) : c = 'M' ∨ c = 'm' := by
  have hall : ∀ n < 128, 'M' ∈ upperChar (Char.ofNat n) →
      Char.ofNat n = 'M' ∨ Char.ofNat n = 'm' := by decide +kernel
  have hc := hall c.toNat hascii
  rw [Char.ofNat_toNat] at hc
  exact hc h

end Text

namespace Command

lemma text_of_ascii {code : List Char} (hascii : ∀ c ∈ code, c.toNat < 128)
    (hm : 'M' ∉ code ∧ 'm' ∉ code) : text code = upperLine code := by
  refine text_of_not_headed fun head hhead => ?_
  have hupper : 'M' ∈ Text.upper code := (List.takeWhile_prefix _).subset hhead.mem
  obtain ⟨c, hc, hmem⟩ := List.mem_flatMap.mp hupper
  rcases Text.eq_of_mem_upperChar (hascii c hc) hmem with rfl | rfl
  · exact hm.1 hc
  · exact hm.2 hc

end Command

namespace Instruction

theorem tokenize_lossless (code : List Char) :
    let line := Command.upperLine code
    let commands := (Command.text code).filter (!Text.isBlank ·)
    let tokens := tokensOf code
    ((∀ h, ¬ Command.Headed line h) → Command.text code = line) ∧
      (∀ h front, Command.Headed line h → line = front ++ h.rest →
        ∃ kept, Command.text code = front ++ kept ∧
          if h.code ∈ [230, 280, 300, 320, 1170, 1180] then kept = []
          else Command.CutAtWord h.rest kept) ∧
      (tokenize code).words = tokens.map (fun t => ⟨t.letter, t.value⟩) ∧
      (tokenize code).words.map Word.letter = commands.filter Command.isLetter ∧
      tokens.flatMap (fun t => t.letter :: t.argument) =
        commands.dropWhile (!Command.isLetter ·) ∧
      (∀ t ∈ tokens, Command.isLetter t.letter ∧ (∀ c ∈ t.argument, ¬ Command.isLetter c) ∧
        (t.argument = [] ∨ t.Unreadable → t.value = 0.0) ∧ (t.isMalformed ↔ t.Unreadable)) ∧
      (tokenize code).malformed =
        (tokens.filter Token.isMalformed).map (fun t => String.ofList (t.letter :: t.argument)) ∧
      ∀ other : List Char, (∀ c ∈ code ++ other, c.toNat < 128 ∧ c ≠ 'M' ∧ c ≠ 'm') →
        line.filter (!Text.isBlank ·) = (Command.upperLine other).filter (!Text.isBlank ·) →
        tokensOf code = tokensOf other ∧ tokenize code = tokenize other := by
  intro line commands tokens
  refine ⟨Command.text_of_not_headed, fun h front hhead hfront => ?_, rfl, ?_,
    Token.flatMap_split commands, fun t ht => ?_, rfl, fun other hplain hsame => ?_⟩
  · exact ⟨h.arguments, Command.text_of_headed hhead hfront, Command.arguments_kept h⟩
  · have hletters : (tokenize code).words.map Word.letter = (Token.split commands).map Token.letter :=
      List.map_map
    rw [hletters, Token.letters_split]
  · have hletterless := Token.letterless_argument ht
    exact ⟨Token.isLetter_of_mem_split ht, fun c hc => Token.not_isLetter_of_mem_argument ht hc,
      Token.value_eq_zero hletterless, Token.isMalformed_iff hletterless⟩
  · have hplain' (cs : List Char) (hcs : cs ⊆ code ++ other) : Command.text cs = Command.upperLine cs :=
      Command.text_of_ascii (fun c hc => (hplain c (hcs hc)).1)
        ⟨fun hm => (hplain _ (hcs hm)).2.1 rfl, fun hm => (hplain _ (hcs hm)).2.2 rfl⟩
    have htokens : tokensOf code = tokensOf other := by
      rw [tokensOf, tokensOf, hplain' code (List.subset_append_left _ _),
        hplain' other (List.subset_append_right _ _)]
      exact congrArg Token.split hsame
    exact ⟨htokens, congrArg ofTokens htokens⟩

theorem tokenize_lossless_two_points :
    let code := "g1 x y1.2.3*71".toList
    let other := "G 1XY 1.2. 3".toList
    let message := "n7 m0 p5 wait s1".toList
    tokenize code = tokenize other ∧ (tokenize code).malformed = ["Y1.2.3"] ∧
      Token.Unreadable ⟨'Y', "1.2.3".toList⟩ ∧ Token.value ⟨'Y', "1.2.3".toList⟩ = 0.0 ∧
      Token.value ⟨'X', []⟩ = 0.0 ∧
      Command.text message = "N7 M0 P5 ".toList ∧
      (tokenize message).words.map Word.letter = ['N', 'M', 'P'] := by
  intro code other message
  have htokens : tokensOf code = [⟨'G', ['1']⟩, ⟨'X', []⟩, ⟨'Y', "1.2.3".toList⟩] := by
    decide +kernel
  have htext : Command.text message = "N7 M0 P5 ".toList := by decide +kernel
  have hplain : (code ++ other).all fun c => c.toNat < 128 ∧ c ≠ 'M' ∧ c ≠ 'm' := by decide +kernel
  have hcommands : (Command.upperLine code).filter (!Text.isBlank ·) =
      (Command.upperLine other).filter (!Text.isBlank ·) := by decide +kernel
  obtain ⟨-, -, -, -, -, hwords, hmalformed, hsame⟩ := tokenize_lossless code
  obtain ⟨-, -, -, hletters, -⟩ := tokenize_lossless message
  rw [htokens] at hwords hmalformed
  rw [htext] at hletters
  obtain ⟨-, -, hzero, hunreadable⟩ := hwords ⟨'Y', "1.2.3".toList⟩ (by decide)
  obtain ⟨-, -, hflag, -⟩ := hwords ⟨'X', []⟩ (by decide)
  have hbad : Token.Unreadable ⟨'Y', "1.2.3".toList⟩ := hunreadable.mp (by decide +kernel)
  have hascii : ∀ c ∈ code ++ other, c.toNat < 128 ∧ c ≠ 'M' ∧ c ≠ 'm' := fun c hc =>
    of_decide_eq_true (List.all_eq_true.mp hplain c hc)
  refine ⟨(hsame other hascii hcommands).2, ?_, hbad, hzero (.inr hbad),
    hflag (.inl rfl), htext, ?_⟩
  · rw [hmalformed]
    decide +kernel
  · rw [hletters]
    decide +kernel

end Instruction
end Toolpath
