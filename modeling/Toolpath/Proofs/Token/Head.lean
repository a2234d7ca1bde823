import Toolpath.Proofs.Token.Command

/-! Heads by their grammar: an M code at the start of a line, perhaps behind a line number, with its
number taken as far as it goes. What follows is cut where a word of text begins. -/

namespace Toolpath

open Text (isBlank isBlankLine trimStart isDecimalDigit)

variable {cs ds rest line : List Char}

lemma Text.trimStart_eq_iff (h : ∀ c ∈ cs.head?, ¬ isBlank c) :
    trimStart line = cs ↔ ∃ pad, isBlankLine pad ∧ line = pad ++ cs := by
  constructor
  · rintro rfl
    exact ⟨line.takeWhile isBlank, List.all_takeWhile, List.takeWhile_append_dropWhile.symm⟩
  · rintro ⟨pad, hpad, rfl⟩
    rw [trimStart_pad_append hpad]
    cases cs with
    | nil => rfl
    | cons c cs => exact List.dropWhile_cons_of_neg (h c rfl)

lemma drop_length_takeWhile {α : Type} (p : α → Bool) (l : List α) :
    l.drop (l.takeWhile p).length = l.dropWhile p := by
  have hsplit : l.takeWhile p ++ l.dropWhile p = l := List.takeWhile_append_dropWhile
  calc l.drop (l.takeWhile p).length
      = (l.takeWhile p ++ l.dropWhile p).drop (l.takeWhile p).length := by rw [hsplit]
    _ = l.dropWhile p := List.drop_left

namespace Command

structure Digits (ds rest : List Char) : Prop where
  ne_nil : ds ≠ []
  all : ∀ d ∈ ds, isDecimalDigit d
  ends : ∀ c ∈ rest.head?, ¬ isDecimalDigit c

inductive LineNumber : List Char → Prop
  | absent : LineNumber []
  | present {pad ds pad' : List Char} (hpad : isBlankLine pad) (hne : ds ≠ [])
    (hdigits : ∀ d ∈ ds, isDecimalDigit d) (hpad' : isBlankLine pad') :
    LineNumber ('N' :: (pad ++ (ds ++ pad')))

inductive Numbered : Head → Prop
  | whole {ds rest : List Char} (h : Digits ds rest)
    (hpoint : ∀ after, rest = '.' :: after → ∀ c ∈ after.head?, ¬ isDecimalDigit c) :
    Numbered ⟨ds, rest⟩
  | dotted {ds fraction rest : List Char} (hne : ds ≠ []) (hdigits : ∀ d ∈ ds, isDecimalDigit d)
    (h : Digits fraction rest) : Numbered ⟨ds ++ '.' :: fraction, rest⟩

def Headed (line : List Char) (h : Head) : Prop :=
  ∃ pad number pad', isBlankLine pad ∧ LineNumber number ∧ isBlankLine pad' ∧ Numbered h ∧
    line = pad ++ (number ++ 'M' :: (pad' ++ (h.number ++ h.rest)))

namespace Digits

variable (h : Digits ds rest)

include h

lemma takeWhile_append : (ds ++ rest).takeWhile isDecimalDigit = ds := by
  rw [List.takeWhile_append_of_pos h.all]
  cases rest with
  | nil => exact List.append_nil ds
  | cons c rest => rw [List.takeWhile_cons_of_neg (h.ends c rfl), List.append_nil]

lemma head?_append : ∀ c ∈ (ds ++ rest).head?, ¬ isBlank c := by
  obtain ⟨d, ds, rfl⟩ := List.exists_cons_of_ne_nil h.ne_nil
  rintro c hc hblank
  obtain rfl := Option.some.inj hc
  exact Text.not_isDecimalDigit_blank hblank (h.all d List.mem_cons_self)

lemma digits?_eq {pad : List Char} (hpad : isBlankLine pad) :
    digits? (pad ++ (ds ++ rest)) = some (ds, rest) := by
  have htrim : trimStart (pad ++ (ds ++ rest)) = ds ++ rest :=
    (Text.trimStart_eq_iff h.head?_append).mpr ⟨pad, hpad, rfl⟩
  simp [digits?, htrim, h.takeWhile_append, h.ne_nil]

end Digits

lemma not_isDecimalDigit_dropWhile :
    ∀ c ∈ (cs.dropWhile isDecimalDigit).head?, ¬ isDecimalDigit c := by
  intro c hc
  have hhead := List.head?_dropWhile_not isDecimalDigit cs
  rw [hc] at hhead
  simpa using hhead

lemma digits_takeWhile (cs : List Char) (hne : cs.takeWhile isDecimalDigit ≠ []) :
    Digits (cs.takeWhile isDecimalDigit) (cs.dropWhile isDecimalDigit) where
  ne_nil := hne
  all _ hd := List.mem_takeWhile_imp hd
  ends := not_isDecimalDigit_dropWhile

lemma digits?_eq_some_iff :
    digits? cs = some (ds, rest) ↔
      Digits ds rest ∧ ∃ pad, isBlankLine pad ∧ cs = pad ++ (ds ++ rest) := by
  constructor
  · intro h
    simp only [digits?, drop_length_takeWhile] at h
    split at h
    · cases h
    · next hne =>
      obtain ⟨rfl, rfl⟩ := Prod.mk.inj (Option.some.inj h)
      have hdigits := digits_takeWhile (trimStart cs) (by simpa using hne)
      refine ⟨hdigits, (Text.trimStart_eq_iff hdigits.head?_append).mp ?_⟩
      exact List.takeWhile_append_dropWhile.symm
  · rintro ⟨h, pad, hpad, rfl⟩
    exact h.digits?_eq hpad

lemma LineNumber.head?_append {number : List Char} (h : LineNumber number) (tail : List Char) :
    ∀ c ∈ (number ++ 'M' :: tail).head?, ¬ isBlank c := by
  intro c hc
  cases h with
  | absent => obtain rfl := Option.some.inj hc; decide
  | present => obtain rfl := Option.some.inj hc; decide

lemma digits_before_code {pad : List Char} (hne : ds ≠ []) (hdigits : ∀ d ∈ ds, isDecimalDigit d)
    (hpad : isBlankLine pad) (tail : List Char) : Digits ds (pad ++ 'M' :: tail) where
  ne_nil := hne
  all := hdigits
  ends c hc := by
    cases pad with
    | nil => obtain rfl := Option.some.inj hc; decide
    | cons d pad =>
      obtain rfl := Option.some.inj hc
      exact Text.not_isDecimalDigit_blank (Text.isBlank_of_mem hpad _ List.mem_cons_self)

lemma skipLineNumber_eq_iff {tail : List Char} :
    skipLineNumber cs = 'M' :: tail ↔ ∃ number, LineNumber number ∧ cs = number ++ 'M' :: tail := by
  have hcode := LineNumber.absent.head?_append tail
  constructor
  · intro h
    by_cases hn : cs.head? = some 'N'
    · obtain ⟨after, rfl⟩ := List.head?_eq_some_iff.mp hn
      rw [skipLineNumber] at h
      split at h
      · next ds rest hread =>
        obtain ⟨hdigits, pad, hpad, rfl⟩ := digits?_eq_some_iff.mp hread
        obtain ⟨pad', hpad', rfl⟩ := (Text.trimStart_eq_iff hcode).mp h
        exact ⟨_, .present hpad hdigits.ne_nil hdigits.all hpad', by simp⟩
      · cases h
    · rw [skipLineNumber_of_head hn] at h
      exact ⟨[], .absent, h⟩
  · rintro ⟨number, hnumber, rfl⟩
    cases hnumber with
    | absent => exact skipLineNumber_of_head (by simp)
    | @present pad ds pad' hpad hne hdigits hpad' =>
      have hread := (digits_before_code hne hdigits hpad' tail).digits?_eq hpad
      have heq : 'N' :: (pad ++ (ds ++ pad')) ++ 'M' :: tail =
          'N' :: (pad ++ (ds ++ (pad' ++ 'M' :: tail))) := by simp
      rw [heq, skipLineNumber, hread]
      exact (Text.trimStart_eq_iff hcode).mpr ⟨pad', hpad', rfl⟩

lemma withFraction_append (whole rest : List Char) :
    (withFraction whole rest).number ++ (withFraction whole rest).rest = whole ++ rest := by
  unfold withFraction
  split
  · next after =>
    dsimp only
    rw [drop_length_takeWhile]
    split
    · rfl
    · rw [List.append_assoc, List.cons_append, List.takeWhile_append_dropWhile]
  · rfl

lemma numbered_withFraction (h : Digits ds rest) : Numbered (withFraction ds rest) := by
  by_cases hpoint : rest.head? = some '.'
  · obtain ⟨after, rfl⟩ := List.head?_eq_some_iff.mp hpoint
    rw [withFraction, drop_length_takeWhile]
    split
    · next hnone =>
      refine .whole h ?_
      rintro after' hafter c hc hdigit
      obtain rfl := (List.cons.inj hafter).2
      obtain ⟨rest, rfl⟩ := List.head?_eq_some_iff.mp hc
      rw [List.takeWhile_cons_of_pos hdigit] at hnone
      cases hnone
    · next hne => exact .dotted h.ne_nil h.all (digits_takeWhile after (by simpa using hne))
  · rw [withFraction_of_head hpoint]
    refine .whole h ?_
    rintro after rfl
    exact absurd rfl hpoint

lemma leading?_of_numbered {h : Head} (hnumbered : Numbered h) {pad : List Char}
    (hpad : isBlankLine pad) : leading? ('M' :: (pad ++ (h.number ++ h.rest))) = some h := by
  rw [leading?]
  cases hnumbered with
  | @whole ds rest hdigits hpoint =>
    rw [hdigits.digits?_eq hpad, Option.map_some]
    by_cases hhead : rest.head? = some '.'
    · obtain ⟨after, rfl⟩ := List.head?_eq_some_iff.mp hhead
      have hnone : after.takeWhile isDecimalDigit = [] := by
        cases after with
        | nil => rfl
        | cons c after => exact List.takeWhile_cons_of_neg (hpoint _ rfl c rfl)
      simp [withFraction, hnone]
    · rw [withFraction_of_head hhead]
  | @dotted ds fraction rest hne hdigits hfraction =>
    have hwhole : Digits ds ('.' :: (fraction ++ rest)) := ⟨hne, hdigits, by simp; decide⟩
    have heq : ds ++ '.' :: fraction ++ rest = ds ++ '.' :: (fraction ++ rest) := by simp
    dsimp only
    rw [heq, hwhole.digits?_eq hpad, Option.map_some]
    simp [withFraction, hfraction.takeWhile_append, hfraction.ne_nil]

lemma head?_eq_some_iff {h : Head} : head? line = some h ↔ Headed line h := by
  rw [head?_eq]
  constructor
  · intro hread
    by_cases hm : (skipLineNumber (trimStart line)).head? = some 'M'
    · obtain ⟨tail, htail⟩ := List.head?_eq_some_iff.mp hm
      rw [htail, leading?] at hread
      obtain ⟨⟨ds, rest⟩, hfirst, rfl⟩ := Option.map_eq_some_iff.mp hread
      obtain ⟨hdigits, pad', hpad', rfl⟩ := digits?_eq_some_iff.mp hfirst
      obtain ⟨number, hnumber, htrim⟩ := skipLineNumber_eq_iff.mp htail
      obtain ⟨pad, hpad, rfl⟩ := (Text.trimStart_eq_iff (hnumber.head?_append _)).mp htrim
      refine ⟨pad, number, pad', hpad, hnumber, hpad', numbered_withFraction hdigits, ?_⟩
      rw [withFraction_append]
    · rw [leading?_of_head hm] at hread
      cases hread
  · rintro ⟨pad, number, pad', hpad, hnumber, hpad', hnumbered, rfl⟩
    have htrim := (Text.trimStart_eq_iff (hnumber.head?_append (pad' ++ (h.number ++ h.rest)))).mpr
      ⟨pad, hpad, rfl⟩
    rw [htrim, skipLineNumber_eq_iff.mpr ⟨number, hnumber, rfl⟩]
    exact leading?_of_numbered hnumbered hpad'

/-! The cut behind a head. -/

structure CutAtWord (cs kept : List Char) : Prop where
  front : kept <+: cs
  first : ∀ front c d back, cs = front ++ c :: d :: back → isLetter c → isLetter d →
    kept.length ≤ front.length
  cut : kept = cs ∨ ∃ c d back, cs = kept ++ c :: d :: back ∧ isLetter c ∧ isLetter d

lemma cutAtWord_beforeWord (cs : List Char) : CutAtWord cs (beforeWord cs) := by
  induction cs using beforeWord.induct with
  | case1 c d cs hletters =>
    obtain ⟨hc, hd⟩ := Bool.and_eq_true_iff.mp hletters
    rw [beforeWord, if_pos hletters]
    exact ⟨List.nil_prefix, fun _ _ _ _ _ _ _ => Nat.zero_le _, .inr ⟨c, d, cs, rfl, hc, hd⟩⟩
  | case2 c d cs hletters ih =>
    rw [beforeWord, if_neg hletters]
    constructor
    case front => exact List.cons_prefix_cons.mpr ⟨rfl, ih.front⟩
    case first =>
      intro front e f back heq he hf
      cases front with
      | nil =>
        obtain ⟨hce, hrest⟩ := List.cons.inj heq
        obtain ⟨hdf, -⟩ := List.cons.inj hrest
        rw [hce, hdf] at hletters
        exact absurd (Bool.and_eq_true_iff.mpr ⟨he, hf⟩) hletters
      | cons g front =>
        obtain ⟨-, heq⟩ := List.cons.inj heq
        exact Nat.succ_le_succ (ih.first front e f back heq he hf)
    case cut =>
      rcases ih.cut with hall | ⟨e, f, back, heq, he, hf⟩
      · exact .inl (congrArg (c :: ·) hall)
      · exact .inr ⟨e, f, back, congrArg (c :: ·) heq, he, hf⟩
  | case3 cs hshort =>
    have hkept : beforeWord cs = cs := by
      rw [beforeWord]
      exact hshort
    rw [hkept]
    refine ⟨List.prefix_rfl, ?_, .inl rfl⟩
    rintro (_ | ⟨g, _ | ⟨g', front⟩⟩) c d back rfl
    · exact absurd rfl (hshort c d back)
    · exact absurd rfl (hshort g c (d :: back))
    · exact absurd rfl (hshort g g' _)

lemma arguments_kept (h : Head) :
    if h.code ∈ [230, 280, 300, 320, 1170, 1180] then h.arguments = []
    else CutAtWord h.rest h.arguments := by
  simp only [Head.arguments, textCodes, List.contains_iff_mem]
  split
  · rfl
  · exact cutAtWord_beforeWord h.rest

lemma text_of_headed {code front : List Char} {h : Head} (hhead : Headed (upperLine code) h)
    (hfront : upperLine code = front ++ h.rest) : text code = front ++ h.arguments := by
  have hread := head?_eq_some_iff.mpr hhead
  have htext : text code = cut (upperLine code) := rfl
  rw [hfront] at hread
  rw [htext, hfront, cut_of_head? hread]

lemma text_of_not_headed {code : List Char} (h : ∀ head, ¬ Headed (upperLine code) head) :
    text code = upperLine code := by
  have hnone : head? (upperLine code) = none :=
    Option.eq_none_iff_forall_ne_some.mpr fun head hread => h head (head?_eq_some_iff.mp hread)
  rw [text, hnone]

lemma Headed.mem {h : Head} (hhead : Headed line h) : 'M' ∈ line := by
  obtain ⟨pad, number, pad', -, -, -, -, rfl⟩ := hhead
  simp

end Command
end Toolpath
