import Toolpath.Proofs.Line.Interpret

/-! Comments on lines that hold more than a comment. What they say is nothing to the machine, not
even where it reads like an instruction or like a comment of the other kind. -/

namespace Toolpath

variable {line rest text : List Char} {c : Char}

lemma head?_trim (line : List Char) : (Text.trim line).head? = (Text.trimStart line).head? := by
  cases htrim : Text.trim line with
  | nil =>
    obtain ⟨pre, post, hpre, hpost, heq⟩ := Text.exists_pads line
    rw [heq, htrim, Text.trimStart_pad_append hpre, List.nil_append, Text.trimStart_pad hpost]
  | cons c cs =>
    have hhead : (Text.trim line).head? = some c := by rw [htrim]; rfl
    rw [Text.head?_trimStart_of_trim hhead]
    rfl

namespace Machine

lemma isNoted_iff : isNoted line ↔ ∃ c, (Text.trimStart line).head? = some c ∧ c ≠ ';' := by
  rw [isNoted, isCommentLine, Text.trimStart_trim, ← head?_trim]
  cases Text.trim line <;> simp

lemma isNoted_append (h : isNoted line) (rest : List Char) : isNoted (line ++ rest) := by
  obtain ⟨c, hhead, hc⟩ := isNoted_iff.mp h
  refine isNoted_iff.mpr ⟨c, ?_, hc⟩
  have hne : ¬ (Text.trimStart line).isEmpty := by
    intro hempty
    rw [List.isEmpty_iff.mp hempty] at hhead
    cases hhead
  rw [Text.trimStart, List.dropWhile_append, ← Text.trimStart, if_neg hne, List.head?_append, hhead]
  rfl

lemma isNoted_enclose (text line : List Char) : isNoted (enclose text ++ line) :=
  isNoted_iff.mpr ⟨'(', rfl, by decide⟩

lemma interpret_stripped (h : isNoted line) (ho : isNoted rest)
    (hstrip : stripComments line = stripComments rest) (m : Machine) (stamp : Stamp) :
    m.interpret line stamp = m.interpret rest stamp := by
  apply interpret_congr h ho
  rw [instruction_eq, instruction_eq, hstrip]

end Machine

theorem Run.feed_commented :
    (∀ text : List Char, '(' ∉ stripComments text ∧ ';' ∉ stripComments text ∧
      stripComments (stripComments text) = stripComments text) ∧
    ∀ (r : Run) (line text : List Char) (stamp : Stamp),
      Machine.isNoted line → Closed line → '\n' ∉ text →
      let same (other : List Char) :=
        r.machine.interpret other stamp = r.machine.interpret line stamp ∧
          r.feed other stamp = r.feed line stamp
      same (line ++ ';' :: text) ∧
        (')' ∉ text → same (line ++ enclose text) ∧ same (enclose text ++ line)) := by
  constructor
  · intro text
    have hplain : (stripComments text).all isPlain := isPlain_dropComments .code text
    refine ⟨?_, ?_, stripComments_eq_self hplain⟩ <;> intro hmem <;>
      exact absurd (List.all_eq_true.mp hplain _ hmem) (by decide)
  · intro r line text stamp hnoted hclosed htext same
    have hsame (other : List Char) (hother : Machine.isNoted other)
        (hstrip : stripComments other = stripComments line) : same other := by
      have heq := Machine.interpret_stripped hother hnoted hstrip r.machine stamp
      exact ⟨heq, by rw [feed, feed, heq]⟩
    constructor
    · apply hsame _ (Machine.isNoted_append hnoted _)
      apply hclosed.stripComments_append (by simp [htext])
      exact stripComments_trailing htext
    · intro hparen
      have hnothing : stripComments (enclose text) = [] := by
        have henclose := stripComments_enclose hparen []
        rwa [List.append_nil] at henclose
      constructor
      · apply hsame _ (Machine.isNoted_append hnoted _)
        exact hclosed.stripComments_append (by simp [enclose, htext]) hnothing
      · exact hsame _ (Machine.isNoted_enclose text line) (stripComments_enclose hparen line)

theorem Run.feed_commented_move :
    let m : Machine := {
      parsing := {}
      coloring := {}
      resolution := {}
      tools := Settings.toolTable {}
      classifier := { style := .generic }
      state := .initial true ((Settings.toolTable {}).color 0) none }
    let r : Run := ⟨m, {}⟩
    let line := "G1 X3 ".toList ++ (enclose ";M117".toList ++ (" E1".toList ++ ';' :: "(".toList))
    let after := r.feed (enclose "; G0 X9".toList ++ line) ⟨1, 32⟩
    m.Reachable {} ∧ Machine.isNoted line ∧ Closed line ∧
      after.machine.state.position.x = 3.0 ∧ after.store.size = 1 ∧
      r.feed (line ++ ';' :: ") X7".toList) ⟨1, 32⟩ = after := by
  intro m r line after
  have hm : Machine.ofTools {} (Settings.toolTable {}) .generic = .ok m := by rfl
  have hnoted : Machine.isNoted line := by decide +kernel
  have hclosed : Closed line := by
    apply Closed.append (by decide)
    apply Closed.enclosed ";M117".toList _ (by decide)
    apply Closed.append (by decide)
    exact Closed.trailing "(".toList (by decide)
  have hposition : (r.feed line ⟨1, 32⟩).machine.state.position.x = 3.0 := by decide +kernel
  have hsize : (r.feed line ⟨1, 32⟩).store.size = 1 := by decide +kernel
  obtain ⟨-, hcommented⟩ := Run.feed_commented
  obtain ⟨-, henclosed⟩ := hcommented r line "; G0 X9".toList ⟨1, 32⟩ hnoted hclosed (by decide)
  obtain ⟨⟨-, htrailing⟩, -⟩ := hcommented r line ") X7".toList ⟨1, 32⟩ hnoted hclosed (by decide)
  obtain ⟨-, -, hbefore⟩ := henclosed (by decide)
  have hafter : after = r.feed line ⟨1, 32⟩ := hbefore
  rw [hafter]
  exact ⟨.start hm, hnoted, hclosed, hposition, hsize, htrailing⟩

end Toolpath
