import Mathlib.Data.List.TakeWhile
import Mathlib.Tactic.Lemma
import Toolpath.Session.LineBuffer

/-! The rows of a text, and how a buffer gives them one by one while text still arrives. -/

namespace Toolpath
namespace Text

/-- The lines of a text with their newlines, which only the last one may lack. -/
def rows : List Char → List (List Char)
  | [] => []
  | c :: cs =>
    if c = '\n' then [c] :: rows cs
    else
      match rows cs with
      | [] => [[c]]
      | row :: rest => (c :: row) :: rest

def bare (row : List Char) : List Char := if row.getLast? = some '\n' then row.dropLast else row

lemma flatten_rows (cs : List Char) : (rows cs).flatten = cs := by
  induction cs with
  | nil => rfl
  | cons c cs ih =>
    rw [rows]
    split
    · rw [List.flatten_cons, ih]
      rfl
    · cases hr : rows cs with
      | nil => rw [hr] at ih; simp [← ih]
      | cons row rest => rw [hr] at ih; simp [← ih]

lemma rows_closed {line : List Char} (h : '\n' ∉ line) (rest : List Char) :
    rows (line ++ '\n' :: rest) = (line ++ ['\n']) :: rows rest := by
  induction line with
  | nil => simp [rows]
  | cons c line ih =>
    obtain ⟨hc, hline⟩ := List.ne_and_not_mem_of_not_mem_cons h
    rw [List.cons_append, rows, if_neg hc.symm, ih hline]
    rfl

lemma rows_open {line : List Char} (h : '\n' ∉ line) (hne : line ≠ []) : rows line = [line] := by
  induction line with
  | nil => exact absurd rfl hne
  | cons c line ih =>
    obtain ⟨hc, hline⟩ := List.ne_and_not_mem_of_not_mem_cons h
    rw [rows, if_neg hc.symm]
    cases line with
    | nil => rfl
    | cons d line => rw [ih hline (List.cons_ne_nil d line)]

@[simp] lemma bare_closed (line : List Char) : bare (line ++ ['\n']) = line := by
  simp [bare]

lemma bare_open {line : List Char} (h : '\n' ∉ line) : bare line = line := by
  rw [bare, if_neg]
  intro hl
  exact h (List.mem_of_getLast? hl)

lemma byteSize_cons (c : Char) (cs : List Char) : byteSize (c :: cs) = c.utf8Size + byteSize cs := rfl

lemma byteSize_append (cs ds : List Char) : byteSize (cs ++ ds) = byteSize cs + byteSize ds := by
  induction cs with
  | nil => exact (Nat.zero_add _).symm
  | cons c cs ih => rw [List.cons_append, byteSize_cons, byteSize_cons, ih, Nat.add_assoc]

lemma byteSize_newline (line : List Char) : byteSize (line ++ ['\n']) = byteSize line + 1 :=
  byteSize_append line ['\n']

lemma byteSize_pos {cs : List Char} (h : cs ≠ []) : 0 < byteSize cs := by
  cases cs with
  | nil => exact absurd rfl h
  | cons c cs => exact Nat.lt_of_lt_of_le c.utf8Size_pos (Nat.le_add_right ..)

lemma ne_nil_of_mem_rows {cs row : List Char} (h : row ∈ rows cs) : row ≠ [] := by
  induction cs generalizing row with
  | nil => cases h
  | cons c cs ih =>
    rw [rows] at h
    split at h
    · rcases List.mem_cons.mp h with rfl | h
      · exact List.cons_ne_nil _ _
      · exact ih h
    · cases hr : rows cs with
      | nil =>
        rw [hr] at h
        rw [List.mem_singleton.mp h]
        exact List.cons_ne_nil _ _
      | cons first rest =>
        rw [hr] at h ih
        rcases List.mem_cons.mp h with rfl | h
        · exact List.cons_ne_nil _ _
        · exact ih (List.mem_cons_of_mem _ h)

lemma splitOnce?_eq_some {sep : Char} {cs line rest : List Char}
    (h : splitOnce? sep cs = some (line, rest)) : cs = line ++ sep :: rest ∧ sep ∉ line := by
  rw [splitOnce?] at h
  have hcs := List.takeWhile_append_dropWhile (p := (· != sep)) (l := cs)
  split at h
  · cases h
  · next c cs' hd =>
    obtain ⟨rfl, rfl⟩ := Prod.mk.inj (Option.some.inj h)
    have hc : c = sep := by
      have hn := List.head?_dropWhile_not (· != sep) cs
      rw [hd] at hn
      simpa using hn
    subst hc
    rw [hd] at hcs
    refine ⟨hcs.symm, fun hm => ?_⟩
    have := List.mem_takeWhile_imp hm
    simp at this

lemma splitOnce?_eq_none {sep : Char} {cs : List Char} (h : splitOnce? sep cs = none) :
    sep ∉ cs := by
  rw [splitOnce?] at h
  split at h
  · next hd =>
    intro hm
    have := List.dropWhile_eq_nil_iff.mp hd sep hm
    simp at this
  · cases h

lemma mem_of_mem_bare {c : Char} {row : List Char} (h : c ∈ bare row) : c ∈ row := by
  rw [bare] at h
  split at h
  · exact List.dropLast_subset row h
  · exact h

lemma isBlankLine_bare {cs row : List Char} (h : isBlankLine cs) (hr : row ∈ rows cs) :
    isBlankLine (bare row) := by
  refine List.all_eq_true.mpr fun c hc => List.all_eq_true.mp h c ?_
  rw [← flatten_rows cs]
  exact List.mem_flatten.mpr ⟨row, hr, mem_of_mem_bare hc⟩

end Text

namespace LineBuffer

open Text

variable {b b' : LineBuffer} {line coming : List Char}

lemma stamp_skip (b : LineBuffer) (bytes : Nat) (rest : List Char) :
    (b.skip bytes rest).stamp = ⟨b.stamp.line + 1, b.stamp.offset + bytes⟩ :=
  congrArg (Stamp.mk _) (Nat.add_assoc ..).symm

lemma stamp_compact (b : LineBuffer) : b.compact.stamp = b.stamp := rfl

lemma next?_eq_some (h : b.next? = some (line, b')) (hc : b.finished → coming = []) :
    ∃ row, rows (b.unread ++ coming) = row :: rows (b'.unread ++ coming) ∧ bare row = line ∧
      b' = b.skip (byteSize row) b'.unread ∧ b'.unread.length < b.unread.length := by
  rw [next?] at h
  split at h
  · next line' rest hs =>
    obtain ⟨rfl, rfl⟩ := Prod.mk.inj (Option.some.inj h)
    obtain ⟨hu, hn⟩ := splitOnce?_eq_some hs
    refine ⟨line' ++ ['\n'], ?_, bare_closed line', ?_, ?_⟩
    · rw [hu, List.append_assoc, List.cons_append, rows_closed hn]
      rfl
    · rw [byteSize_newline]
      rfl
    · simp [hu, skip]
      omega
  · next hs =>
    have hn := splitOnce?_eq_none hs
    split at h
    · next hlast =>
      obtain ⟨hf, hne⟩ := Bool.and_eq_true_iff.mp hlast
      have hne : b.unread ≠ [] := by simpa using hne
      obtain ⟨rfl, rfl⟩ := Prod.mk.inj (Option.some.inj h)
      obtain rfl := hc hf
      refine ⟨b.unread, ?_, bare_open hn, rfl, List.length_pos_iff.mpr hne⟩
      rw [List.append_nil, rows_open hn hne]
      rfl
    · cases h

lemma next?_eq_none (h : b.next? = none) (hf : b.finished) : b.unread = [] := by
  rw [next?] at h
  split at h
  · cases h
  · split at h
    · cases h
    · next hn => simpa [hf] using hn

lemma upToLine?_append {n : Nat} {cs found : List Char} (h : upToLine? n cs = some found)
    (coming : List Char) : upToLine? n (cs ++ coming) = some found := by
  induction cs generalizing n found with
  | nil =>
    cases n with
    | zero => simpa [upToLine?] using h
    | succ n => cases h
  | cons c cs ih =>
    cases n with
    | zero => exact h
    | succ n =>
      rw [upToLine?] at h
      rw [List.cons_append, upToLine?]
      split at h
      · next hc =>
        rw [if_pos hc]
        split at h
        · next hn => rw [if_pos hn, h]
        · next hn =>
          obtain ⟨tail, ht, rfl⟩ := Option.map_eq_some_iff.mp h
          rw [if_neg hn, ih ht]
          rfl
      · next hc =>
        obtain ⟨tail, ht, rfl⟩ := Option.map_eq_some_iff.mp h
        rw [if_neg hc, ih ht]
        rfl

def headOf (text : List Char) : List Char := (upToLine? headLines text).getD text

lemma head_eq_text {found : List Char} (h : b.head = .text found)
    (hc : b.finished → coming = []) : found = headOf (b.unread ++ coming) := by
  rw [head] at h
  split at h
  · next cs hs =>
    obtain rfl := Head.text.inj h
    rw [headOf, upToLine?_append hs]
    rfl
  · next hs =>
    split at h
    · cases h
    · next hf =>
      obtain rfl := hc (by simpa using hf)
      split at h
      · cases h
      · obtain rfl := Head.text.inj h
        rw [headOf, List.append_nil, hs]
        rfl

def isBarren (text : List Char) : Bool :=
  (upToLine? headLines text).isNone && isBlankLine text

lemma head_of_isBarren (hf : b.finished) (h : isBarren b.unread) : b.head = .blank := by
  obtain ⟨hnone, hblank⟩ := Bool.and_eq_true_iff.mp h
  rw [head, Option.isNone_iff_eq_none.mp hnone, hf, hblank]
  rfl

lemma head_of_not_isBarren (hf : b.finished) (h : ¬ isBarren b.unread) :
    b.head = .text (headOf b.unread) := by
  rw [head, headOf]
  split
  · next cs hs => rw [hs]; rfl
  · next hs =>
    rw [isBarren, hs, Option.isNone_none, Bool.true_and] at h
    rw [hs, if_neg (by simp [hf]), if_neg h]
    rfl

lemma head_of_finished (hf : b.finished) (hne : ¬ isBlankLine b.unread) :
    b.head = .text (headOf b.unread) :=
  head_of_not_isBarren hf fun h => hne (Bool.and_eq_true_iff.mp h).2

end LineBuffer
end Toolpath
