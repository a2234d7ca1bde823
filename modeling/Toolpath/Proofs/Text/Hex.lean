import Mathlib.Data.List.Basic
import Mathlib.Tactic.Lemma
import Toolpath.Text.Hex

/-! Digits as ranges of characters, and the hexadecimal ones, in either case, by their values. -/

namespace Toolpath.Text

variable {c : Char} {n : Nat}

def smallDigits : List Char := "0123456789abcdef".toList
def capitalDigits : List Char := "0123456789ABCDEF".toList

def IsHexDigit (c : Char) (n : Nat) : Prop := smallDigits[n]? = some c ∨ capitalDigits[n]? = some c

instance : Decidable (IsHexDigit c n) := inferInstanceAs (Decidable (_ ∨ _))

lemma IsHexDigit.lt (h : IsHexDigit c n) : n < 16 := by
  rcases h with h | h <;> exact (List.getElem?_eq_some_iff.mp h).1

lemma IsHexDigit.of_all {P : Char → Nat → Prop}
    (hP : ∀ p ∈ smallDigits.zipIdx ++ capitalDigits.zipIdx, P p.1 p.2) (h : IsHexDigit c n) :
    P c n := by
  refine hP (c, n) (List.mem_append.mpr ?_)
  exact h.imp List.mk_mem_zipIdx_iff_getElem?.mpr List.mk_mem_zipIdx_iff_getElem?.mpr

lemma toNat_of_mem_range {low high : Char} (h : low ≤ c && c ≤ high) :
    low.toNat ≤ c.toNat ∧ c.toNat ≤ high.toNat := by
  obtain ⟨hlow, hhigh⟩ := Bool.and_eq_true_iff.mp h
  exact ⟨UInt32.le_iff_toNat_le.mp (of_decide_eq_true hlow),
    UInt32.le_iff_toNat_le.mp (of_decide_eq_true hhigh)⟩

lemma forall_mem_range {P : Char → Prop} {low high : Char}
    (hP : ∀ k < high.toNat + 1 - low.toNat, P (Char.ofNat (low.toNat + k)))
    (h : low ≤ c && c ≤ high) : P c := by
  obtain ⟨hlow, hhigh⟩ := toNat_of_mem_range h
  have hc := hP (c.toNat - low.toNat) (by omega)
  rwa [Nat.add_sub_cancel' hlow, Char.ofNat_toNat] at hc

lemma isHexDigit_of_hexDigit? (h : hexDigit? c = some n) : IsHexDigit c n := by
  rw [hexDigit?] at h
  split at h
  · next hc =>
    obtain rfl := Option.some.inj h
    exact forall_mem_range (P := fun c => IsHexDigit c (c.toNat - '0'.toNat)) (by decide +kernel) hc
  · split at h
    · next hc =>
      obtain rfl := Option.some.inj h
      exact forall_mem_range (P := fun c => IsHexDigit c (c.toNat - 'a'.toNat + 10))
        (by decide +kernel) hc
    · split at h
      · next hc =>
        obtain rfl := Option.some.inj h
        exact forall_mem_range (P := fun c => IsHexDigit c (c.toNat - 'A'.toNat + 10))
          (by decide +kernel) hc
      · cases h

lemma hexDigit?_eq_some_iff : hexDigit? c = some n ↔ IsHexDigit c n :=
  ⟨isHexDigit_of_hexDigit?,
    IsHexDigit.of_all (P := fun c n => hexDigit? c = some n) (by decide +kernel)⟩

lemma isHexDigit_hexCapital (hn : n < 16) : IsHexDigit (hexCapital n) n := by
  have hall : ∀ n < 16, IsHexDigit (hexCapital n) n := by decide +kernel
  exact hall n hn

lemma IsHexDigit.ne (h : IsHexDigit c n) : c ≠ '+' ∧ c ≠ '#' :=
  IsHexDigit.of_all (P := fun c _ => c ≠ '+' ∧ c ≠ '#') (by decide +kernel) h

end Toolpath.Text
