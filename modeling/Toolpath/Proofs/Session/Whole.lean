import Toolpath.Proofs.Session.Failure
import Toolpath.Proofs.Session.Travels

/-! What becomes of a whole text, by the rows that it has. -/

namespace Toolpath
namespace Session

lemma step_of_isBarren {s : Session} (b : Budget) (hrun : s.run = none)
    (hcomplete : s.complete = false) (hcancel : s.isCancelled = false)
    (hf : s.buffer.finished) (h : LineBuffer.isBarren s.buffer.unread) :
    (s.step b).2 = .error .emptyInput := by
  rw [step, hcomplete, hcancel, if_neg Bool.false_ne_true, if_neg Bool.false_ne_true, start, hrun,
    Option.isSome_none, if_neg Bool.false_ne_true, LineBuffer.head_of_isBarren hf h]

end Session

namespace Interpretation

lemma ofText_eq (settings : Settings) (text : List Char) :
    ofText settings text =
      if LineBuffer.isBarren text then .error .emptyInput
      else (Machine.ofSettings settings (.ofProgram text)).bind fun m =>
        if Text.isBlankLine text then .error .emptyInput
        else .ok (ofRun (Reading.ofRows m (Text.rows text)).close (.ofProgram text)) := by
  have hw := Session.waiting_new settings text
  split
  · next hbarren =>
    exact ofText_of_step_eq_error (Session.step_of_isBarren _ rfl rfl rfl rfl hbarren)
  · next hbarren =>
    have hhead : (({} : LineBuffer).push text).finish.head = .text (LineBuffer.headOf text) :=
      LineBuffer.head_of_not_isBarren rfl hbarren
    cases hm : Machine.ofSettings settings (.ofProgram text) with
    | error e => exact ofText_of_step_eq_error (Session.step_eq_error _ rfl rfl rfl hhead hm)
    | ok m =>
      dsimp only [Except.bind]
      split
      · next hblank =>
        have hcontent : (Reading.ofRows m (Text.rows text)).sawContent = false :=
          Bool.eq_false_iff.mpr fun hc => Reading.not_isBlankLine hc hblank
        refine ofText_of_step_eq_error ?_
        rw [hw.step_text rfl rfl hm hhead, hcontent, if_neg Bool.false_ne_true]
      · next hblank => exact ofText_eq_ofRun hm hblank

lemma exists_ended_of_ofText {settings : Settings} {text : List Char} {i : Interpretation}
    (h : ofText settings text = .ok i) :
    ∃ m s, Machine.ofSettings settings (.ofProgram text) = .ok m ∧
      (({ settings } : Session).push text).runToEnd = (s, .ok .complete) ∧
      Session.Ended m text s ∧ s.output = i := by
  have heq := ofText_eq settings text
  rw [h] at heq
  split at heq
  · cases heq
  · cases hm : Machine.ofSettings settings (.ofProgram text) with
    | error e => rw [hm] at heq; cases heq
    | ok m =>
      rw [hm] at heq
      dsimp only [Except.bind] at heq
      split at heq
      · cases heq
      · next hblank =>
        have hcontent := Reading.sawContent_of_not_isBlankLine hblank m
        obtain ⟨s, hrun, hend⟩ := Session.exists_ended hm hcontent
        refine ⟨m, s, rfl, hrun, hend, ?_⟩
        rw [hend.output_eq, Except.ok.inj heq]
        rfl

end Interpretation
end Toolpath
