import Toolpath.Proofs.Overflow
import Toolpath.Proofs.Text.Hex

/-! Decimal notation. Without letters there are no powers of ten and no words for infinity, so the
texts that are read as numbers are those in decimal notation, and they overflow by their digits
only. -/

namespace Toolpath.Numeral

variable {c : Char} {cs : List Char} {x : Float}

lemma toNat_of_isDigit (h : isDigit c) : 48 ≤ c.toNat ∧ c.toNat ≤ 57 := Text.toNat_of_mem_range h

lemma forall_digit {P : Char → Prop} (hP : ∀ n < 10, P (Char.ofNat (48 + n))) (h : isDigit c) :
    P c := by
  refine Text.forall_mem_range ?_ h
  exact hP

structure Decimal where
  sign : List Char
  whole : List Char
  fraction? : Option (List Char)
  sign_mem : sign ∈ [[], ['+'], ['-']]
  whole_digits : whole.all isDigit
  fraction_digits : (fraction?.getD []).all isDigit
  ne_nil : ¬ (whole = [] ∧ fraction?.getD [] = [])

namespace Decimal

def fraction (d : Decimal) : List Char := d.fraction?.getD []

def tail (d : Decimal) : List Char := (d.fraction?.map ('.' :: ·)).getD []

def text (d : Decimal) : List Char := d.sign ++ (d.whole ++ d.tail)

def magnitude (d : Decimal) : ℚ := digitsValue 0 (d.whole ++ d.fraction) / 10 ^ d.fraction.length

def Overflows (d : Decimal) : Prop := overflowLimit ≤ d.magnitude

end Decimal

/-! Reading without letters. -/

def Letterless (cs : List Char) : Prop := ∀ c ∈ cs, ¬ c.isAlpha

def afterPoint : List Char → List Char × List Char
  | '.' :: rest => (rest.takeWhile isDigit, rest.dropWhile isDigit)
  | rest => ([], rest)

lemma afterPoint_suffix (cs : List Char) : (afterPoint cs).2 <:+ cs := by
  unfold afterPoint
  split
  · exact (List.dropWhile_suffix _).trans (List.suffix_cons _ _)
  · exact List.suffix_rfl

def withPower? (whole fraction : List Char) : List Char → Option Scientific
  | [] => some ⟨digitsValue (digitsValue 0 whole) fraction, -(fraction.length : Int)⟩
  | c :: power =>
    if c = 'e' || c = 'E' then
      (exponent? power).map fun e =>
        ⟨digitsValue (digitsValue 0 whole) fraction, e - fraction.length⟩
    else none

lemma scientific?_eq (cs : List Char) : scientific? cs =
    if (cs.takeWhile isDigit).isEmpty && (afterPoint (cs.dropWhile isDigit)).1.isEmpty then none
    else withPower? (cs.takeWhile isDigit) (afterPoint (cs.dropWhile isDigit)).1
      (afterPoint (cs.dropWhile isDigit)).2 := by
  rw [scientific?]
  dsimp only
  generalize cs.dropWhile isDigit = rest
  split
  · next rest =>
    rw [afterPoint]
    cases rest.dropWhile isDigit <;> rfl
  · next hpoint =>
    have hafter : afterPoint rest = ([], rest) := by
      unfold afterPoint
      split
      · exact absurd rfl (hpoint _)
      · rfl
    rw [hafter]
    cases rest <;> rfl

lemma scientific?_of_letterless (h : Letterless cs) : scientific? cs =
      let whole := cs.takeWhile isDigit
      let rest := afterPoint (cs.dropWhile isDigit)
      if (whole = [] ∧ rest.1 = []) ∨ rest.2 ≠ [] then none
      else some ⟨digitsValue 0 (whole ++ rest.1), -(rest.1.length : Int)⟩ := by
  have hsuffix := (afterPoint_suffix (cs.dropWhile isDigit)).trans (List.dropWhile_suffix _)
  rw [scientific?_eq]
  dsimp only
  generalize cs.takeWhile isDigit = whole
  generalize afterPoint (cs.dropWhile isDigit) = read at *
  obtain ⟨fraction, rest⟩ := read
  cases rest with
  | nil => simp [withPower?, digitsValue]
  | cons c rest =>
    -- a power of ten would begin with a letter
    have hc : ¬ (c = 'e' || c = 'E') := by
      have hmem := hsuffix.subset List.mem_cons_self
      intro he
      rcases Bool.or_eq_true_iff.mp he with he | he <;>
        exact h c hmem (by rw [of_decide_eq_true he]; decide)
    simp [withPower?, hc]

lemma unsigned?_of_letterless (h : Letterless cs) :
    unsigned? cs = (scientific? cs).map .number := by
  have hword (word : List Char) (hn : 'n' ∈ word) : lowerAscii cs ≠ word := by
    rintro rfl
    obtain ⟨c, hc, hlower⟩ := List.mem_map.mp hn
    have halpha := h c hc
    rw [← Char.isAlpha_toLower_eq_isAlpha, hlower] at halpha
    exact halpha (by decide)
  simp [unsigned?, hword]

lemma exists_sign (cs : List Char) :
    ∃ sign ∈ [[], ['+'], ['-']], sign ++ (splitSign cs).2 = cs := by
  unfold splitSign
  split
  · exact ⟨['-'], by simp, rfl⟩
  · exact ⟨['+'], by simp, rfl⟩
  · exact ⟨[], by simp, rfl⟩

lemma exists_fraction (h : (afterPoint cs).2 = []) :
    ∃ fraction? : Option (List Char), fraction?.getD [] = (afterPoint cs).1 ∧
      (fraction?.map ('.' :: ·)).getD [] = cs ∧ (fraction?.getD []).all isDigit := by
  unfold afterPoint at h ⊢
  split at h
  · next rest =>
    have hdigits := List.dropWhile_eq_nil_iff.mp h
    refine ⟨some rest, ?_, rfl, List.all_eq_true.mpr hdigits⟩
    exact (List.takeWhile_eq_self_iff.mpr hdigits).symm
  · obtain rfl : _ = [] := h
    exact ⟨none, rfl, rfl, rfl⟩

theorem exists_decimal (h : Letterless cs) (hx : float? cs = some x) :
    ∃ d : Decimal, d.text = cs := by
  obtain ⟨sign, hsign, htext⟩ := exists_sign cs
  have hsuffix : (splitSign cs).2 <:+ cs := ⟨sign, htext⟩
  have hbody : Letterless (splitSign cs).2 := fun c hc => h c (hsuffix.subset hc)
  obtain ⟨r, hr, -⟩ := Option.map_eq_some_iff.mp hx
  change unsigned? (splitSign cs).2 = some r at hr
  rw [unsigned?_of_letterless hbody] at hr
  obtain ⟨n, hn, -⟩ := Option.map_eq_some_iff.mp hr
  rw [scientific?_of_letterless hbody] at hn
  generalize (splitSign cs).2 = body at *
  dsimp only at hn
  split at hn
  · cases hn
  · next hread =>
    obtain ⟨hne, hrest⟩ := not_or.mp hread
    obtain ⟨fraction?, hfraction, htail, hdigits⟩ := exists_fraction (not_not.mp hrest)
    refine ⟨⟨sign, body.takeWhile isDigit, fraction?, hsign, ?_, hdigits, ?_⟩, ?_⟩
    · exact List.all_takeWhile
    · rwa [hfraction]
    · rw [Decimal.text, Decimal.tail]
      dsimp only
      rw [htail, List.takeWhile_append_dropWhile, htext]

namespace Decimal

variable (d : Decimal)

lemma isDigit_of_mem_whole (hc : c ∈ d.whole) : isDigit c := List.all_eq_true.mp d.whole_digits c hc

lemma isDigit_of_mem_fraction (hc : c ∈ d.fraction) : isDigit c :=
  List.all_eq_true.mp d.fraction_digits c hc

lemma tail_eq : d.tail = [] ∧ d.fraction = [] ∨ d.tail = '.' :: d.fraction := by
  rw [tail, fraction]
  cases d.fraction? with
  | none => exact .inl ⟨rfl, rfl⟩
  | some ds => exact .inr rfl

lemma isDigit_or_point (hc : c ∈ d.whole ++ d.tail) : isDigit c ∨ c = '.' := by
  rcases List.mem_append.mp hc with hc | hc
  · exact .inl (d.isDigit_of_mem_whole hc)
  · rcases d.tail_eq with ⟨htail, -⟩ | htail
    · rw [htail] at hc
      cases hc
    · rw [htail] at hc
      rcases List.mem_cons.mp hc with rfl | hc
      · exact .inr rfl
      · exact .inl (d.isDigit_of_mem_fraction hc)

lemma forall_mem {P : Char → Prop} (hdigit : ∀ n < 10, P (Char.ofNat (48 + n))) (hpoint : P '.') :
    ∀ c ∈ d.whole ++ d.tail, P c := by
  intro c hc
  rcases d.isDigit_or_point hc with h | rfl
  · exact forall_digit hdigit h
  · exact hpoint

lemma letterless : Letterless (d.whole ++ d.tail) :=
  d.forall_mem (by decide +kernel) (by decide)

lemma splitSign_text : splitSign d.text = (d.sign == ['-'], d.whole ++ d.tail) := by
  have hhead := d.forall_mem (P := fun c => c ≠ '-' ∧ c ≠ '+') (by decide +kernel) (by decide)
  have hsign := d.sign_mem
  rw [text]
  simp only [List.mem_cons, List.not_mem_nil, or_false] at hsign
  rcases hsign with h | h | h <;> rw [h]
  · rw [List.nil_append]
    unfold splitSign
    split
    · next cs heq => exact absurd rfl (hhead '-' (by rw [heq]; exact List.mem_cons_self)).1
    · next cs heq => exact absurd rfl (hhead '+' (by rw [heq]; exact List.mem_cons_self)).2
    · rfl
  · rfl
  · rfl

lemma colon_notMem : ':' ∉ d.text := by
  have hbody := d.forall_mem (P := fun c => c ≠ ':') (by decide +kernel) (by decide)
  have hsign : ∀ sign ∈ [[], ['+'], ['-']], ':' ∉ sign := by decide
  rw [text, List.mem_append, not_or]
  exact ⟨hsign _ d.sign_mem, fun hmem => hbody _ hmem rfl⟩

def scientific : Scientific := ⟨digitsValue 0 (d.whole ++ d.fraction), -(d.fraction.length : Int)⟩

lemma overflows_scientific : d.scientific.Overflows ↔ d.Overflows := by
  rw [Scientific.Overflows, Scientific.value, Overflows, magnitude, scientific, zpow_neg,
    zpow_natCast, div_eq_mul_inv]

lemma takeWhile_tail : d.tail.takeWhile isDigit = [] := by
  rcases d.tail_eq with ⟨htail, -⟩ | htail <;> rw [htail]
  · rfl
  · exact List.takeWhile_cons_of_neg (by decide)

lemma dropWhile_tail : d.tail.dropWhile isDigit = d.tail := by
  rcases d.tail_eq with ⟨htail, -⟩ | htail <;> rw [htail]
  · rfl
  · exact List.dropWhile_cons_of_neg (by decide)

lemma afterPoint_tail : afterPoint d.tail = (d.fraction, []) := by
  have hfraction : ∀ c ∈ d.fraction, isDigit c := fun c => d.isDigit_of_mem_fraction
  rcases d.tail_eq with ⟨htail, hnone⟩ | htail <;> rw [htail]
  · rw [hnone]
    rfl
  · rw [afterPoint, List.takeWhile_eq_self_iff.mpr hfraction,
      List.dropWhile_eq_nil_iff.mpr hfraction]

lemma scientific?_text : scientific? (d.whole ++ d.tail) = some d.scientific := by
  have hwhole : ∀ c ∈ d.whole, isDigit c := fun c => d.isDigit_of_mem_whole
  rw [scientific?_of_letterless d.letterless, List.takeWhile_append_of_pos hwhole,
    List.dropWhile_append_of_pos hwhole, d.takeWhile_tail, d.dropWhile_tail, d.afterPoint_tail,
    List.append_nil]
  exact if_neg (not_or.mpr ⟨d.ne_nil, not_not.mpr rfl⟩)

def toFloat : Float := if d.sign == ['-'] then -d.scientific.toFloat else d.scientific.toFloat

theorem float?_text : float? d.text = some d.toFloat := by
  rw [float?, d.splitSign_text]
  dsimp only
  rw [unsigned?_of_letterless d.letterless, d.scientific?_text]
  rfl

theorem isFinite_toFloat : d.toFloat.isFinite ↔ ¬ d.Overflows := by
  rw [← d.overflows_scientific, ← Scientific.isFinite_toFloat, toFloat]
  split
  · exact isFinite_neg _
  · rfl

theorem not_isNaN_toFloat : ¬ d.toFloat.isNaN := by
  rw [toFloat]
  split
  · exact fun h => d.scientific.not_isNaN_toFloat (isNaN_of_isNaN_neg h)
  · exact d.scientific.not_isNaN_toFloat

end Decimal
end Toolpath.Numeral
