import Toolpath.Proofs.Session.Instructions
import Toolpath.Proofs.Token.Command

/-! What a line does depends on its words and on whether it counts as an instruction, and on nothing
else that stands on it. -/

namespace Toolpath
namespace Machine

variable {m : Machine} {line other : List Char} {stamp : Stamp}

lemma instruction_eq (line : List Char) :
    instruction line = Instruction.tokenize (stripComments line) := by
  have hpasses := Command.passesPads_text.comp passesPads_stripComments
  exact congrArg (Instruction.ofTokens ∘ Token.split) (hpasses.filter_trim line)

lemma interpret_noted (m : Machine) (h : isNoted line) (stamp : Stamp) :
    m.interpret line stamp =
      if (instruction line).isEmpty then (m, { isInstruction := true })
      else
        let r := (m.recordAll (malformed line stamp)).execute (instruction line) stamp
        (r.1, { isInstruction := true, emissions := r.2 }) := by
  obtain ⟨hblank, hcomment⟩ := Bool.and_eq_true_iff.mp h
  rw [Bool.not_eq_true'] at hblank hcomment
  simp only [interpret, hblank, hcomment, Bool.false_eq_true, if_false]
  rfl

lemma interpret_congr (h : isNoted line) (ho : isNoted other)
    (hinstruction : instruction line = instruction other) (m : Machine) (stamp : Stamp) :
    m.interpret line stamp = m.interpret other stamp := by
  rw [interpret_noted m h, interpret_noted m ho, malformed, malformed, hinstruction]

end Machine
end Toolpath
