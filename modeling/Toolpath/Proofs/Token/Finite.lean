import Toolpath.Proofs.Token.Letters

/-! Which words are finite. A number that is too great counts as malformed where it stands alone, but
stays infinite among the ratios of a mix. -/

namespace Toolpath

variable {cs : List Char} {x : Float} {t : Token}

namespace Numeral

structure IsFiniteAs (cs : List Char) (x : Float) : Prop where
  number (d : Decimal) : d.text = cs → ¬ d.Overflows → x = d.toFloat
  zero : (∀ d : Decimal, d.text = cs → d.Overflows) → x = 0.0
  isFinite : x.isFinite

def IsTooGreat (cs : List Char) : Prop := ∃ d : Decimal, d.text = cs ∧ d.Overflows

structure IsReadAs (cs : List Char) (x : Float) : Prop where
  finite : ¬ IsTooGreat cs → IsFiniteAs cs x
  infinite : IsTooGreat cs → x.isInf

lemma isFinite_zero : (0.0 : Float).isFinite := by decide +kernel

lemma isInf_of_not_isFinite (h : ¬ x.isFinite) (hnumber : ¬ x.isNaN) : x.isInf := by
  have hfinite : x.isFinite = x.toModel.unpack.isFinite := rfl
  have hnan : x.isNaN = x.toModel.unpack.isNaN := rfl
  have hinf : x.isInf = x.toModel.unpack.isInf := rfl
  rw [hfinite] at h
  rw [hnan] at hnumber
  rw [hinf]
  cases hx : x.toModel.unpack with
  | infinity s => rfl
  | notANumber =>
    rw [hx] at hnumber
    exact absurd rfl hnumber
  | zero | finite =>
    rw [hx] at h
    exact absurd rfl h

lemma float?_eq_toFloat {d : Decimal} (hd : d.text = cs) (hx : float? cs = some x) :
    x = d.toFloat := by
  rw [← hd, d.float?_text] at hx
  exact (Option.some.inj hx).symm

lemma isFiniteAs_of_isFinite (h : Letterless cs) (hx : float? cs = some x) (hfinite : x.isFinite) :
    IsFiniteAs cs x where
  number d hd _ := float?_eq_toFloat hd hx
  zero hgreat := by
    obtain ⟨d, hd⟩ := exists_decimal h hx
    rw [float?_eq_toFloat hd hx, d.isFinite_toFloat] at hfinite
    exact absurd (hgreat d hd) hfinite
  isFinite := hfinite

lemma isFiniteAs_zero (hx : ∀ x, float? cs = some x → ¬ x.isFinite) : IsFiniteAs cs 0.0 where
  number d hd hsmall := by
    have hread := d.float?_text
    rw [hd] at hread
    exact absurd (d.isFinite_toFloat.mpr hsmall) (hx _ hread)
  zero _ := rfl
  isFinite := isFinite_zero

lemma isReadAs_getD (h : Letterless cs) : IsReadAs cs ((float? cs).getD 0.0) where
  finite hsmall := by
    cases hx : float? cs with
    | none => exact isFiniteAs_zero (by rw [hx]; nofun)
    | some x =>
      obtain ⟨d, hd⟩ := exists_decimal h hx
      refine isFiniteAs_of_isFinite h hx ?_
      rw [Option.getD_some, float?_eq_toFloat hd hx, d.isFinite_toFloat]
      exact fun hover => hsmall ⟨d, hd, hover⟩
  infinite := by
    rintro ⟨d, rfl, hover⟩
    rw [d.float?_text, Option.getD_some]
    exact isInf_of_not_isFinite (mt d.isFinite_toFloat.mp (not_not.mpr hover)) d.not_isNaN_toFloat

lemma float?_of_colon (h : Letterless cs) (hcolon : ':' ∈ cs) : float? cs = none := by
  cases hx : float? cs with
  | none => rfl
  | some x =>
    obtain ⟨d, rfl⟩ := exists_decimal h hx
    exact absurd hcolon d.colon_notMem

end Numeral

namespace Token

def isMix (t : Token) : Bool := t.letter = 'E' && t.argument.contains ':'

def parts (t : Token) : List (List Char) := Text.splitOn ':' t.argument

def ratios (t : Token) : List Float := t.parts.map fun part => (Numeral.float? part).getD 0.0

lemma finite?_of_isMix (h : Numeral.Letterless t.argument) (hmix : t.isMix) : t.finite? = none := by
  rw [isMix, Bool.and_eq_true, List.contains_iff_mem] at hmix
  rw [finite?, Numeral.float?_of_colon h hmix.2, Option.filter_none]

lemma mix?_eq (h : Numeral.Letterless t.argument) :
    t.mix? = if t.isMix then some t.ratios else none := by
  have hcondition : (t.finite?.isNone && t.letter = 'E' && t.argument.contains ':') = t.isMix := by
    rw [Bool.and_assoc]
    change (t.finite?.isNone && t.isMix) = t.isMix
    cases hmix : t.isMix with
    | false => exact Bool.and_false _
    | true => rw [finite?_of_isMix h hmix, Option.isNone_none, Bool.and_true]
  rw [mix?, hcondition]
  rfl

lemma head?_ratios (h : Numeral.Letterless t.argument) (hmix : t.isMix) :
    t.ratios.head? = some t.value := by
  obtain ⟨part, rest, hparts⟩ := List.exists_cons_of_ne_nil (Text.splitOn_ne_nil ':' t.argument)
  have hratios : t.ratios = (part :: rest).map fun part => (Numeral.float? part).getD 0.0 := by
    rw [ratios, parts, hparts]
  rw [value, finite?_of_isMix h hmix, mix?_eq h, if_pos hmix, hratios]
  rfl

lemma isFiniteAs_value (h : Numeral.Letterless t.argument) (hmix : ¬ t.isMix) :
    Numeral.IsFiniteAs t.argument t.value := by
  rw [value, mix?_eq h, if_neg hmix]
  cases hx : t.finite? with
  | none =>
    refine Numeral.isFiniteAs_zero fun x hread hfinite => ?_
    rw [finite?, hread, Option.filter_some_pos hfinite] at hx
    cases hx
  | some x =>
    obtain ⟨hread, hfinite⟩ := Option.filter_eq_some_iff.mp hx
    exact Numeral.isFiniteAs_of_isFinite h hread hfinite

lemma isReadAs_part (h : Numeral.Letterless t.argument) {part : List Char} (hpart : part ∈ t.parts) :
    Numeral.IsReadAs part ((Numeral.float? part).getD 0.0) :=
  Numeral.isReadAs_getD fun c hc => h c (Text.subset_of_mem_splitOn hpart hc)

lemma isReadAs_ratios (h : Numeral.Letterless t.argument) :
    List.Forall₂ Numeral.IsReadAs t.parts t.ratios := by
  rw [ratios, List.forall₂_map_right_iff, List.forall₂_same]
  exact fun part hpart => isReadAs_part h hpart

def IsSmall (t : Token) : Prop := ∀ part ∈ t.parts, ¬ Numeral.IsTooGreat part

lemma isFinite_ratio (h : Numeral.Letterless t.argument) (hsmall : t.IsSmall) :
    ∀ x ∈ t.ratios, x.isFinite := by
  intro x hx
  obtain ⟨part, hpart, rfl⟩ := List.mem_map.mp hx
  exact ((isReadAs_part h hpart).finite (hsmall part hpart)).isFinite

lemma isFinite_value (h : Numeral.Letterless t.argument) (hsmall : t.isMix → t.IsSmall) :
    t.value.isFinite := by
  by_cases hmix : t.isMix
  · exact isFinite_ratio h (hsmall hmix) _ (List.mem_of_head? (head?_ratios h hmix))
  · exact (isFiniteAs_value h hmix).isFinite

lemma filterMap_mix? {ts : List Token} (h : ∀ t ∈ ts, Numeral.Letterless t.argument) :
    ts.filterMap mix? = (ts.filter isMix).map ratios := by
  induction ts with
  | nil => rfl
  | cons t ts ih =>
    have htail := ih fun t ht => h t (List.mem_cons_of_mem _ ht)
    rw [List.filterMap_cons, mix?_eq (h t List.mem_cons_self), htail]
    cases hmix : t.isMix with
    | false => rw [List.filter_cons_of_neg (by simp [hmix])]; rfl
    | true => rw [List.filter_cons_of_pos hmix]; rfl

end Token

namespace Instruction

def tokensOf (code : List Char) : List Token :=
  Token.split ((Command.text code).filter (!Text.isBlank ·))

theorem tokenize_finite (code : List Char) :
    (tokenize code).words = (tokensOf code).map Token.word ∧
    (tokenize code).mix = ((tokensOf code).filter Token.isMix).getLast?.map Token.ratios ∧
    (∀ t ∈ tokensOf code, ¬ t.isMix → Numeral.IsFiniteAs t.argument t.value) ∧
    (∀ t ∈ tokensOf code, t.isMix →
      List.Forall₂ Numeral.IsReadAs t.parts t.ratios ∧ t.ratios.head? = some t.value) ∧
    ((∀ t ∈ tokensOf code, t.isMix → t.IsSmall) →
      (∀ w ∈ (tokenize code).words, w.value.isFinite) ∧
        ∀ x ∈ (tokenize code).mix.getD [], x.isFinite) := by
  have hletterless (t : Token) (ht : t ∈ tokensOf code) : Numeral.Letterless t.argument :=
    Token.letterless_argument ht
  have hmixes : (tokenize code).mix =
      ((tokensOf code).filter Token.isMix).getLast?.map Token.ratios := by
    rw [← List.getLast?_map, ← Token.filterMap_mix? hletterless]
    rfl
  refine ⟨rfl, hmixes, ?_, ?_, fun hsmall => ⟨?_, ?_⟩⟩
  · exact fun t ht hmix => Token.isFiniteAs_value (hletterless t ht) hmix
  · exact fun t ht hmix => ⟨Token.isReadAs_ratios (hletterless t ht),
      Token.head?_ratios (hletterless t ht) hmix⟩
  · intro w hw
    obtain ⟨t, ht, rfl⟩ := List.mem_map.mp hw
    exact Token.isFinite_value (hletterless t ht) (hsmall t ht)
  · rw [hmixes]
    cases hlast : ((tokensOf code).filter Token.isMix).getLast? with
    | none => exact List.forall_mem_nil _
    | some t =>
      obtain ⟨ht, hmix⟩ := List.mem_filter.mp (List.mem_of_getLast? hlast)
      exact Token.isFinite_ratio (hletterless t ht) (hsmall t ht hmix)

theorem tokenize_finite_two_words :
    Numeral.IsFiniteAs "1.5".toList (Token.value ⟨'X', "1.5".toList⟩) ∧
    List.Forall₂ Numeral.IsReadAs ["0.25".toList, []] (Token.ratios ⟨'E', "0.25:".toList⟩) := by
  have htokens : tokensOf "x1.5 e0.25:".toList =
      [⟨'X', "1.5".toList⟩, ⟨'E', "0.25:".toList⟩] := by decide +kernel
  obtain ⟨-, -, hplain, hmix, -⟩ := tokenize_finite "x1.5 e0.25:".toList
  rw [htokens] at hplain hmix
  exact ⟨hplain _ List.mem_cons_self (by decide),
    (hmix _ (List.mem_cons_of_mem _ List.mem_cons_self) (by decide)).1⟩

theorem tokenize_overflows :
    let line := 'E' :: '1' :: (List.replicate 309 '0' ++ [':', '1'])
    ¬ (∀ w ∈ (tokenize line).words, w.value.isFinite) ∧
    ¬ (∀ x ∈ (tokenize line).mix.getD [], x.isFinite) := by
  decide +kernel

end Instruction
end Toolpath
