import Toolpath.Color
import Toolpath.Proofs.Text.Blank
import Toolpath.Proofs.Text.Hex

/-! Which texts are colors, and of which color. A channel is written with two digits; a plus sign may
stand for the first of them. -/

namespace Toolpath

open Text

namespace Text

variable {c : Char} {n : Nat} {cs front back : List Char}

lemma IsHexDigit.not_isBlank (h : IsHexDigit c n) : ¬ isBlank c :=
  IsHexDigit.of_all (P := fun c _ => ¬ isBlank c) (by decide +kernel) h

lemma dropWhile_isBlank (h : ∀ c ∈ cs, ¬ isBlank c) : cs.dropWhile isBlank = cs := by
  cases cs with
  | nil => rfl
  | cons c cs => exact List.dropWhile_cons_of_neg (h c List.mem_cons_self)

lemma trim_pads (hfront : isBlankLine front) (hback : isBlankLine back)
    (h : ∀ c ∈ cs, ¬ isBlank c) : trim (front ++ (cs ++ back)) = cs := by
  have hreverse : ∀ c ∈ cs.reverse, ¬ isBlank c := fun c hc => h c (List.mem_reverse.mp hc)
  have hpad : ∀ c ∈ back.reverse, isBlank c := fun c hc =>
    isBlank_of_mem hback c (List.mem_reverse.mp hc)
  rw [trim, trimStart_pad_append hfront]
  rcases trimStart_append_pad hback cs with heq | ⟨hcs, heq⟩
  · rw [heq, trimStart, dropWhile_isBlank h, trimEnd, List.reverse_append,
      List.dropWhile_append_of_pos hpad, dropWhile_isBlank hreverse, List.reverse_reverse]
  · rw [trimStart, dropWhile_isBlank h] at hcs
    rw [heq, hcs]
    rfl

end Text

namespace Color

def Encloses (text inner : List Char) : Prop :=
  ∃ front marks back, isBlankLine front ∧ isBlankLine back ∧ (∀ c ∈ marks, c = '#') ∧
    text = front ++ (marks ++ inner ++ back)

def TwoDigits (cs : List Char) (n : Nat) : Prop :=
  ∃ c d high low, cs = [c, d] ∧ IsHexDigit c high ∧ IsHexDigit d low ∧ n = 16 * high + low

def SignedDigit (cs : List Char) (n : Nat) : Prop := ∃ d, cs = ['+', d] ∧ IsHexDigit d n

def Channel (cs : List Char) (n : Nat) : Prop := TwoDigits cs n ∨ SignedDigit cs n

inductive Spells (channel : List Char → Nat → Prop) : List Char → Color → Prop
  | solid {rs gs bs : List Char} {r g b : Nat} (hr : channel rs r) (hg : channel gs g)
    (hb : channel bs b) :
    Spells channel (rs ++ gs ++ bs) ⟨ofChannel r, ofChannel g, ofChannel b, 1.0⟩
  | sheer {rs gs bs as : List Char} {r g b a : Nat} (hr : channel rs r) (hg : channel gs g)
    (hb : channel bs b) (ha : channel as a) :
    Spells channel (rs ++ gs ++ bs ++ as) ⟨ofChannel r, ofChannel g, ofChannel b, ofChannel a⟩

variable {text inner cs : List Char} {c : Color} {n : Nat}

lemma Spells.mono {p q : List Char → Nat → Prop} (h : Spells p inner c)
    (hpq : ∀ cs n, (∀ c ∈ cs, c ∈ inner) → p cs n → q cs n) : Spells q inner c := by
  cases h with
  | solid hr hg hb =>
    refine .solid (hpq _ _ ?_ hr) (hpq _ _ ?_ hg) (hpq _ _ ?_ hb) <;>
      intro c hc <;> simp [hc]
  | sheer hr hg hb ha =>
    refine .sheer (hpq _ _ ?_ hr) (hpq _ _ ?_ hg) (hpq _ _ ?_ hb) (hpq _ _ ?_ ha) <;>
      intro c hc <;> simp [hc]

lemma Spells.forall_mem {p : List Char → Nat → Prop} {P : Char → Prop} (h : Spells p inner c)
    (hp : ∀ cs n, p cs n → ∀ c ∈ cs, P c) : ∀ c ∈ inner, P c := by
  cases h with
  | solid hr hg hb =>
    simp only [List.forall_mem_append]
    exact ⟨⟨hp _ _ hr, hp _ _ hg⟩, hp _ _ hb⟩
  | sheer hr hg hb ha =>
    simp only [List.forall_mem_append]
    exact ⟨⟨⟨hp _ _ hr, hp _ _ hg⟩, hp _ _ hb⟩, hp _ _ ha⟩

lemma forall_mem_channel (h : Channel cs n) : ∀ c ∈ cs, ¬ isBlank c ∧ c ≠ '#' := by
  rcases h with ⟨c, d, high, low, rfl, hc, hd, rfl⟩ | ⟨d, rfl, hd⟩
  · simp [hc.not_isBlank, hc.ne.2, hd.not_isBlank, hd.ne.2]
  · have hplus : ¬ isBlank '+' := by decide
    simp [hplus, hd.not_isBlank, hd.ne.2]

lemma channel_iff : Channel cs n ↔ ∃ c d, cs = [c, d] ∧ channel? c d = some n := by
  constructor
  · rintro (⟨c, d, high, low, rfl, hc, hd, rfl⟩ | ⟨d, rfl, hd⟩)
    · refine ⟨c, d, rfl, ?_⟩
      rw [channel?, if_neg hc.ne.1, hexDigit?_eq_some_iff.mpr hc, hexDigit?_eq_some_iff.mpr hd]
      rfl
    · exact ⟨'+', d, rfl, hexDigit?_eq_some_iff.mpr hd⟩
  · rintro ⟨c, d, rfl, h⟩
    rw [channel?] at h
    split at h
    · next hc => exact .inr ⟨d, by rw [hc], hexDigit?_eq_some_iff.mp h⟩
    · obtain ⟨high, hhigh, h⟩ := Option.bind_eq_some_iff.mp h
      obtain ⟨low, hlow, h⟩ := Option.bind_eq_some_iff.mp h
      exact .inl ⟨c, d, high, low, rfl, hexDigit?_eq_some_iff.mp hhigh,
        hexDigit?_eq_some_iff.mp hlow, (Option.some.inj h).symm⟩

def body (text : List Char) : List Char := (trim text).dropWhile (· == '#')

lemma encloses_body (text : List Char) : Encloses text (body text) := by
  obtain ⟨front, back, hfront, hback, htext⟩ := exists_pads text
  refine ⟨front, (trim text).takeWhile (· == '#'), back, hfront, hback, fun c hc => ?_, ?_⟩
  · have hmark : (c == '#') = true := List.mem_takeWhile_imp (p := (· == '#')) hc
    exact eq_of_beq hmark
  · rw [body, List.takeWhile_append_dropWhile]
    exact htext

lemma Encloses.body_eq (h : Encloses text cs) (hcs : ∀ c ∈ cs, ¬ isBlank c ∧ c ≠ '#') :
    body text = cs := by
  obtain ⟨front, marks, back, hfront, hback, hmarks, rfl⟩ := h
  have hmark : ¬ isBlank '#' := by decide
  have hsolid : ∀ c ∈ marks ++ cs, ¬ isBlank c := by
    intro c hc
    rcases List.mem_append.mp hc with hc | hc
    · rwa [hmarks c hc]
    · exact (hcs c hc).1
  rw [body, trim_pads hfront hback hsolid,
    List.dropWhile_append_of_pos fun c hc => beq_iff_eq.mpr (hmarks c hc)]
  cases cs with
  | nil => rfl
  | cons c cs =>
    have hc : ¬ (c == '#') := by simpa using (hcs c List.mem_cons_self).2
    exact List.dropWhile_cons_of_neg hc

lemma Encloses.mem {x : Char} (h : Encloses text inner) (hx : x ∈ inner) : x ∈ text := by
  obtain ⟨front, marks, back, -, -, -, rfl⟩ := h
  simp [hx]

lemma Encloses.mem_of {x : Char} (h : Encloses text inner) (hblank : ¬ isBlank x) (hmark : x ≠ '#')
    (hx : x ∈ text) : x ∈ inner := by
  obtain ⟨front, marks, back, hfront, hback, hmarks, rfl⟩ := h
  have hfront := notMem_pad hfront hblank
  have hback := notMem_pad hback hblank
  have hmarks : x ∉ marks := fun hx => hmark (hmarks x hx)
  simpa [hfront, hback, hmarks] using hx

lemma ofHex?_eq_some_iff_body : ofHex? text = some c ↔ Spells Channel (body text) c := by
  have hchannel {c d : Char} {n : Nat} (h : channel? c d = some n) : Channel [c, d] n :=
    channel_iff.mpr ⟨c, d, rfl, h⟩
  rw [ofHex?, ← body]
  constructor
  · intro h
    split at h
    · next hbody =>
      simp only [Option.bind_eq_bind, Option.bind_eq_some_iff, Option.pure_def] at h
      obtain ⟨r, hr, g, hg, b, hb, h⟩ := h
      rw [hbody, ← Option.some.inj h]
      exact .solid (hchannel hr) (hchannel hg) (hchannel hb)
    · next hbody =>
      simp only [Option.bind_eq_bind, Option.bind_eq_some_iff, Option.pure_def] at h
      obtain ⟨r, hr, g, hg, b, hb, a, ha, h⟩ := h
      rw [hbody, ← Option.some.inj h]
      exact .sheer (hchannel hr) (hchannel hg) (hchannel hb) (hchannel ha)
    · cases h
  · intro h
    generalize body text = cs at h
    cases h with
    | solid hr hg hb =>
      obtain ⟨_, _, rfl, hred⟩ := channel_iff.mp hr
      obtain ⟨_, _, rfl, hgreen⟩ := channel_iff.mp hg
      obtain ⟨_, _, rfl, hblue⟩ := channel_iff.mp hb
      simp [hred, hgreen, hblue]
    | sheer hr hg hb ha =>
      obtain ⟨_, _, rfl, hred⟩ := channel_iff.mp hr
      obtain ⟨_, _, rfl, hgreen⟩ := channel_iff.mp hg
      obtain ⟨_, _, rfl, hblue⟩ := channel_iff.mp hb
      obtain ⟨_, _, rfl, halpha⟩ := channel_iff.mp ha
      simp [hred, hgreen, hblue, halpha]

lemma ofHex?_eq_some_iff_encloses :
    ofHex? text = some c ↔ ∃ inner, Encloses text inner ∧ Spells Channel inner c := by
  rw [ofHex?_eq_some_iff_body]
  constructor
  · exact fun h => ⟨body text, encloses_body text, h⟩
  · rintro ⟨cs, htext, h⟩
    rwa [htext.body_eq (h.forall_mem fun _ _ => forall_mem_channel)]

lemma spells_channel_iff (h : '+' ∉ inner) : Spells Channel inner c ↔ Spells TwoDigits inner c := by
  constructor
  · intro hspells
    refine hspells.mono fun cs n hsub hn => hn.resolve_right ?_
    rintro ⟨d, rfl, -⟩
    exact h (hsub '+' List.mem_cons_self)
  · exact fun hspells => hspells.mono fun cs n _ => Or.inl

lemma Encloses.plus_notMem (htext : Encloses text inner) (h : Spells TwoDigits inner c) :
    '+' ∉ text := by
  have hdigits : ∀ c ∈ inner, c ≠ '+' := by
    refine h.forall_mem ?_
    rintro _ _ ⟨c, d, high, low, rfl, hc, hd, rfl⟩
    simp [hc.ne.1, hd.ne.1]
  intro hplus
  exact hdigits _ (htext.mem_of (by decide) (by decide) hplus) rfl

lemma encloses_twoDigits_iff :
    (∃ inner, Encloses text inner ∧ Spells TwoDigits inner c) ↔
      ofHex? text = some c ∧ '+' ∉ text := by
  rw [ofHex?_eq_some_iff_encloses]
  constructor
  · rintro ⟨inner, htext, h⟩
    have hplus := htext.plus_notMem h
    exact ⟨⟨inner, htext, (spells_channel_iff (mt htext.mem hplus)).mpr h⟩, hplus⟩
  · rintro ⟨⟨inner, htext, h⟩, hplus⟩
    exact ⟨inner, htext, (spells_channel_iff (mt htext.mem hplus)).mp h⟩

end Color
end Toolpath
