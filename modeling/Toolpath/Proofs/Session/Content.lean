import Toolpath.Proofs.Comparison
import Toolpath.Proofs.Session.Progress

/-! Programs without content, and programs with. Both places that look for content, the head of a
program and the end of its lines, come to the same verdict, whatever the number of lines. A program with
content is interpreted unless it overflows. -/

namespace Toolpath

lemma Text.isBlankLine_iff {cs : List Char} :
    isBlankLine cs ↔ ∀ row ∈ rows cs, isBlankLine (bare row) := by
  constructor
  · exact fun h row hrow => isBlankLine_bare h hrow
  · intro h
    by_contra hcontent
    obtain ⟨row, hrow, hne⟩ := exists_row_of_not_isBlankLine hcontent
    exact hne (h row hrow)

lemma Session.ends_unlimited {s : Session} (hf : s.buffer.finished)
    (meanwhile : Nat → CancelToken → CancelToken) : ∃ answer, Ends s [{ meanwhile }] answer := by
  rcases s.step?_eq_none_or { meanwhile } with h | h
  · exact ⟨none, .overflow h⟩
  · refine ⟨_, .last h fun p hp => ?_⟩
    exact step_ne_pending hf rfl (fun _ => rfl) p hp

namespace Interpretation

variable {settings : Settings} {text : List Char} {m : Machine}

lemma ofText_eq_ite (hm : Machine.ofSettings settings (.ofProgram text) = .ok m) :
    ofText settings text =
      if Text.isBlankLine text then .error .emptyInput
      else .ok (ofRun (Reading.ofRows m (Text.rows text)).close (.ofProgram text)) := by
  rw [ofText_eq, hm]
  split
  · next hbarren => rw [if_pos (Bool.and_eq_true_iff.mp hbarren).2]
  · rfl

lemma ofText?_eq_some_iff (hm : Machine.ofSettings settings (.ofProgram text) = .ok m)
    (hcount : (Text.rows text).length < LineBuffer.lineLimit) {answer : Except Fault Interpretation} :
    ofText? settings text = some answer ↔
      (∀ k, ¬ settings.OverflowsAt text k) ∧ ofText settings text = answer := by
  have hnone := ofText?_eq_none_iff hm hcount
  rw [ofText?_eq] at hnone ⊢
  split at hnone
  · obtain ⟨k, hk⟩ := hnone.mp rfl
    rw [if_pos ‹_›]
    exact iff_of_false nofun fun h => h.1 k hk
  · rw [if_neg ‹_›, Option.some_inj]
    exact (and_iff_right fun k hk => nomatch hnone.mpr ⟨k, hk⟩).symm

theorem ofText?_emptyInput_iff (h : 0.0 < settings.parser.arcSegmentLength) (text : List Char) :
    ((Text.rows text).length < LineBuffer.lineLimit →
      (ofText? settings text = some (.error .emptyInput) ↔
        ∀ row ∈ Text.rows text, Text.isBlankLine (Text.bare row)) ∧
      ((∃ i, ofText? settings text = some (.ok i)) ↔
        (∃ row ∈ Text.rows text, ¬ Text.isBlankLine (Text.bare row)) ∧
          ∀ k, ¬ settings.OverflowsAt text k) ∧
      (ofText? settings text = none ↔ ∃ k, settings.OverflowsAt text k)) ∧
    (∀ e, ofText? settings text = some (.error e) → e = .emptyInput) ∧
    ∀ s : Session, s.runToEnd = s.finish.step .unlimited ∧
      ∀ meanwhile, ∃ answer, Session.Ends s.finish [{ meanwhile }] answer := by
  obtain ⟨m, hm⟩ : ∃ m, Machine.ofSettings settings (.ofProgram text) = .ok m :=
    Machine.exists_ofTools_iff.mpr (zero_lt_iff_not_le.mp h)
  have hcontent : (∃ row ∈ Text.rows text, ¬ Text.isBlankLine (Text.bare row)) ↔
      ¬ Text.isBlankLine text := by
    rw [Text.isBlankLine_iff]
    push Not
    rfl
  rw [← Text.isBlankLine_iff, hcontent]
  refine ⟨fun hcount => ⟨?_, ?_, ofText?_eq_none_iff hm hcount⟩, fun e he => ?_,
    fun s => ⟨s.runToEnd_eq, Session.ends_unlimited rfl⟩⟩
  · rw [ofText?_eq_some_iff hm hcount, ofText_eq_ite hm]
    split
    · next hblank =>
      refine iff_of_true ⟨fun k hk => ?_, rfl⟩ hblank
      exact hcontent.mp hk.exists_content hblank
    · next hblank => exact iff_of_false (fun h => nomatch h.2) hblank
  · simp only [ofText?_eq_some_iff hm hcount, ofText_eq_ite hm, exists_and_left]
    rw [and_comm]
    refine and_congr_left' ?_
    split
    · next hblank => exact iff_of_false nofun (not_not_intro hblank)
    · next hblank => exact iff_of_true ⟨_, rfl⟩ hblank
  · rw [ofText?_eq] at he
    split at he
    · cases he
    · rw [ofText_eq_ite hm] at he
      split at he
      · exact (Except.error.inj (Option.some.inj he)).symm
      · cases he

/-- At two hundred newlines the head of a program is told to be complete before it is looked at. -/
theorem ofText?_emptyInput_iff_at_head :
    let settings : Settings := { parser.arcSegmentLength := 0.5 }
    let blank := List.replicate 200 '\n'
    0.0 < settings.parser.arcSegmentLength ∧ (Text.rows blank).length < LineBuffer.lineLimit ∧
      ofText? settings blank = some (.error .emptyInput) ∧
      ofText? settings blank.tail = some (.error .emptyInput) ∧
      ∃ answer, Session.Ends ({ settings } : Session).finish [{}] answer := by
  intro settings blank
  have hlength : 0.0 < settings.parser.arcSegmentLength := by decide
  have hcount : (Text.rows blank).length < LineBuffer.lineLimit := by decide +kernel
  have hblank : ∀ row ∈ Text.rows blank, Text.isBlankLine (Text.bare row) := by decide +kernel
  have hcountTail : (Text.rows blank.tail).length < LineBuffer.lineLimit := by decide +kernel
  have htail : ∀ row ∈ Text.rows blank.tail, Text.isBlankLine (Text.bare row) := by decide +kernel
  exact ⟨hlength, hcount, ((ofText?_emptyInput_iff hlength _).1 hcount).1.mpr hblank,
    ((ofText?_emptyInput_iff hlength _).1 hcountTail).1.mpr htail,
    ((ofText?_emptyInput_iff hlength []).2.2 _).2 _⟩

theorem ofText?_eq_none_long_arc :
    let text := "G2 I1000000000000000000000000000000".toList
    0.0 < ({} : Settings).parser.arcSegmentLength ∧
      (∃ row ∈ Text.rows text, ¬ Text.isBlankLine (Text.bare row)) ∧ ofText? {} text = none := by
  intro text
  -- a full circle with a radius of 10 ^ 30
  have hover : (ofText? {} text).isNone := by decide +kernel
  exact ⟨by decide, by decide +kernel, Option.isNone_iff_eq_none.mp hover⟩

end Interpretation
end Toolpath
