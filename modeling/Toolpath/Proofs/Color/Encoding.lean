import Toolpath.Document.Decode
import Toolpath.Proofs.Color.Notation

/-! The texts that colors are written as: they read back as the colors with their components rounded
to bytes, and rounding changes no color that was read. -/

namespace Toolpath

lemma IntRange.clamp_le {range : IntRange} (h : range.lo ≤ range.hi) (n : Int) :
    range.clamp n ≤ range.hi := by
  rw [clamp]
  omega

lemma Dyadic.toInt_le {r : Rounding} (range : IntRange) (hlo : range.lo ≤ range.hi)
    (hhi : 0 ≤ range.hi) (d : Dyadic) : d.toInt r range ≤ range.hi := by
  cases d with
  | nan => exact hhi
  | infinite negative =>
    cases negative with
    | true => exact hlo
    | false => exact Int.le_refl _
  | finite negative m e => exact IntRange.clamp_le hlo _

namespace Color

open Text

variable {text : List Char} {c : Color} {n : Nat}

lemma byte_lt (x : Float32) : byte x < 256 := by
  have hle : roundFloat32 .nearest .byte (unitClamp x * 255.0) ≤ 255 :=
    Dyadic.toInt_le .byte (by decide) (by decide) _
  rw [byte]
  omega

lemma channel_hexByte (hn : n < 256) : Channel (hexByte n) n := by
  have hhigh := isHexDigit_hexCapital (Nat.mod_lt (n / 16) (by decide : 0 < 16))
  have hlow := isHexDigit_hexCapital (Nat.mod_lt n (by decide : 0 < 16))
  exact .inl ⟨_, _, _, _, rfl, hhigh, hlow, by omega⟩

lemma encloses_mark (inner : List Char) : Encloses ('#' :: inner) inner :=
  ⟨[], ['#'], [], rfl, rfl, fun _ hc => List.mem_singleton.mp hc, by simp⟩

/-- The components rounded to bytes; alpha stays at one from there on. -/
def quantized (c : Color) : Color where
  r := ofChannel (byte c.r)
  g := ofChannel (byte c.g)
  b := ofChannel (byte c.b)
  a := if 1.0 ≤ c.a then 1.0 else ofChannel (byte c.a)

lemma ofHex?_toHex (c : Color) : ofHex? c.toHex = some c.quantized := by
  have hr := channel_hexByte (byte_lt c.r)
  have hg := channel_hexByte (byte_lt c.g)
  have hb := channel_hexByte (byte_lt c.b)
  have htext : c.toHex = '#' :: (hexByte (byte c.r) ++ hexByte (byte c.g) ++ hexByte (byte c.b) ++
      (if 1.0 ≤ c.a then [] else hexByte (byte c.a))) := rfl
  rw [ofHex?_eq_some_iff_encloses, htext, quantized]
  refine ⟨_, encloses_mark _, ?_⟩
  split
  · rw [List.append_nil]
    exact .solid hr hg hb
  · exact .sheer hr hg hb (channel_hexByte (byte_lt c.a))

/-! Channels that are read are bytes. -/

lemma Channel.lt {cs : List Char} (h : Channel cs n) : n < 256 := by
  rcases h with ⟨c, d, high, low, -, hc, hd, rfl⟩ | ⟨d, -, hd⟩
  · have hhigh := hc.lt
    have hlow := hd.lt
    omega
  · exact Nat.lt_of_lt_of_le hd.lt (by decide)

/-- Checked for every byte, since a channel is a rounded quotient. -/
lemma bytes_exact : ∀ n < 256, byte (ofChannel n) = n ∧ (1.0 ≤ ofChannel n → n = 255) := by
  decide +kernel

lemma byte_ofChannel (hn : n < 256) : byte (ofChannel n) = n := (bytes_exact n hn).1

lemma ofChannel_of_one_le (hn : n < 256) (h : 1.0 ≤ ofChannel n) : ofChannel n = 1.0 := by
  obtain rfl := (bytes_exact n hn).2 h
  decide +kernel

lemma quantized_of_spells {inner : List Char} (h : Spells Channel inner c) : c.quantized = c := by
  have hone : (1.0 : Float32) ≤ 1.0 := by decide
  cases h with
  | solid hr hg hb =>
    simp only [quantized, byte_ofChannel hr.lt, byte_ofChannel hg.lt, byte_ofChannel hb.lt,
      if_pos hone]
  | @sheer rs gs bs as r g b a hr hg hb ha =>
    have halpha : (if 1.0 ≤ ofChannel a then 1.0 else ofChannel a) = ofChannel a := by
      split
      · next h => exact (ofChannel_of_one_le ha.lt h).symm
      · rfl
    simp only [quantized, byte_ofChannel hr.lt, byte_ofChannel hg.lt, byte_ofChannel hb.lt,
      byte_ofChannel ha.lt, halpha]

theorem ofHex?_hexText :
    (∀ c : Color, ofHex? c.toHex = some ⟨ofChannel (byte c.r), ofChannel (byte c.g),
      ofChannel (byte c.b), if 1.0 ≤ c.a then 1.0 else ofChannel (byte c.a)⟩) ∧
    (∀ text c, ofHex? text = some c → ofHex? c.toHex = some c) ∧
    ∀ d c, Document.asColor? d = some c → Document.asColor? (.text c.hexText) = some c := by
  have hread (text : List Char) (c : Color) (h : ofHex? text = some c) :
      ofHex? c.toHex = some c := by
    rw [ofHex?_toHex, quantized_of_spells (ofHex?_eq_some_iff_body.mp h)]
  refine ⟨ofHex?_toHex, hread, fun d c h => ?_⟩
  rw [Document.asColor?, hexText, String.toList_ofList]
  cases d with
  | text s => exact hread _ c h
  | null | bool | int | float | list | table | unreadable => cases h

theorem ofHex?_hexText_sheer :
    let c : Color := ⟨0.0, 0.0, 1.0, ofChannel 128⟩
    ofHex? " #0000fF80".toList = some c ∧ ofHex? c.toHex = some c ∧
      Document.asColor? (.text "#0000FF80") = some c ∧
      Document.asColor? (.text c.hexText) = some c := by
  intro c
  have htext : ofHex? " #0000fF80".toList = some c := by decide +kernel
  have hdocument : Document.asColor? (.text "#0000FF80") = some c := by decide +kernel
  obtain ⟨-, hread, hkept⟩ := ofHex?_hexText
  exact ⟨htext, hread _ c htext, hdocument, hkept _ c hdocument⟩

end Color
end Toolpath
