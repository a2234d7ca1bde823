import Toolpath.Proofs.Decimal
import Toolpath.Proofs.Text.Blank

/-! Numbers in plain digits. They are read exactly as far as numbers go, and those of up to eighteen
digits are finite. -/

namespace Toolpath
namespace Numeral

variable {c : Char} {ds : List Char}

lemma upperChar_digit (h : isDigit c) : Text.upperChar c = [c] :=
  forall_digit (P := fun c => Text.upperChar c = [c]) (by decide +kernel) h

lemma isDecimalDigit_digit (h : isDigit c) : Text.isDecimalDigit c :=
  forall_digit (P := fun c => Text.isDecimalDigit c) (by decide +kernel) h

lemma not_isLetter_digit (h : isDigit c) : ¬ Command.isLetter c :=
  forall_digit (P := fun c => ¬ Command.isLetter c) (by decide +kernel) h

lemma not_isBlank_digit (h : isDigit c) : ¬ Text.isBlank c :=
  forall_digit (P := fun c => ¬ Text.isBlank c) (by decide +kernel) h

lemma digitsValue_lt (h : ds.all isDigit) (acc : Nat) :
    digitsValue acc ds < (acc + 1) * 10 ^ ds.length := by
  induction ds generalizing acc with
  | nil => simp [digitsValue]
  | cons c ds ih =>
    rw [List.all_cons, Bool.and_eq_true] at h
    have hc := toNat_of_isDigit h.1
    have hzero : '0'.toNat = 48 := rfl
    calc digitsValue acc (c :: ds)
      _ = digitsValue (10 * acc + (c.toNat - '0'.toNat)) ds := rfl
      _ < (10 * acc + (c.toNat - '0'.toNat) + 1) * 10 ^ ds.length := ih h.2 _
      _ ≤ (acc + 1) * 10 * 10 ^ ds.length := Nat.mul_le_mul_right _ (by omega)
      _ = (acc + 1) * 10 ^ (c :: ds).length := by
        rw [List.length_cons, Nat.pow_succ', Nat.mul_assoc]

lemma normalize_whole {n : Nat} (hn : n < 10 ^ 18) : Scientific.normalize ⟨n, 0⟩ = ⟨n, 0⟩ := by
  have hwidth : Scientific.width ⟨n, 0⟩ ≤ 18 :=
    (Nat.length_toDigits_le_iff (by decide) (by decide)).mpr hn
  by_cases hzero : n = 0
  · rw [hzero]
    rfl
  · simp only [Scientific.normalize, if_neg hzero]
    rw [if_neg (by omega), if_neg (by omega)]

structure Whole (ds : List Char) : Prop where
  digits : ds.all isDigit
  ne_nil : ds ≠ []
  length_le : ds.length ≤ 18

namespace Whole

def decimal (h : Whole ds) : Decimal where
  sign := []
  whole := ds
  fraction? := none
  sign_mem := by simp
  whole_digits := h.digits
  fraction_digits := rfl
  ne_nil hne := h.ne_nil hne.1

variable (h : Whole ds)

include h

lemma isDigit : ∀ c ∈ ds, isDigit c := List.all_eq_true.mp h.digits

lemma notMem (hc : ¬ Numeral.isDigit c) : c ∉ ds := fun hmem => hc (h.isDigit c hmem)

lemma upper_eq : Text.upper ds = ds :=
  Text.upper_eq_self fun c hc => upperChar_digit (h.isDigit c hc)

lemma filter_eq : ds.filter (!Text.isBlank ·) = ds := by
  apply List.filter_eq_self.mpr
  intro c hc
  simp [not_isBlank_digit (h.isDigit c hc)]

lemma trimStart_append (rest : List Char) : Text.trimStart (ds ++ rest) = ds ++ rest := by
  obtain ⟨c, ds, rfl⟩ := List.exists_cons_of_ne_nil h.ne_nil
  exact List.dropWhile_cons_of_neg (not_isBlank_digit (h.isDigit c List.mem_cons_self))

lemma digitsValue_lt_pow : digitsValue 0 ds < 10 ^ 18 := by
  have hlt := digitsValue_lt h.digits 0
  have hpow : 10 ^ ds.length ≤ 10 ^ 18 := Nat.pow_le_pow_right (by decide) h.length_le
  omega

lemma scientific_decimal : h.decimal.scientific = ⟨digitsValue 0 ds, 0⟩ := by
  have hdigits : h.decimal.whole ++ h.decimal.fraction = ds := List.append_nil ds
  rw [Decimal.scientific, hdigits]
  rfl

lemma float?_eq : float? ds = some (Float.ofNat (digitsValue 0 ds)) := by
  have htext : h.decimal.text = ds := List.append_nil ds
  have hunsigned : h.decimal.toFloat = h.decimal.scientific.toFloat := rfl
  have hread := h.decimal.float?_text
  rw [htext, hunsigned, h.scientific_decimal, Scientific.toFloat,
    normalize_whole h.digitsValue_lt_pow] at hread
  exact hread

lemma isFinite : (Float.ofNat (digitsValue 0 ds)).isFinite :=
  isFinite_ofNat (Nat.lt_trans h.digitsValue_lt_pow (by decide))

end Whole
end Numeral
end Toolpath
