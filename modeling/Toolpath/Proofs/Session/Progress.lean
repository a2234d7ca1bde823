import Mathlib.Data.Stream.Init
import Toolpath.Proofs.Session.Overflow
import Toolpath.Proofs.Session.Step

/-! Stepping makes progress. Once the end of the input is told, each step ends the session or reads a
line, and a host that goes on while steps are pending comes to an end, after as many steps as the
lines that are left and the budgets demand. Only a text that overflows leaves it without an answer. -/

namespace Toolpath
namespace Session

variable {settings : Settings} {s : Session} {b : Budget} {text : List Char} {m : Machine}

inductive Ends : Session → List Budget → Option (Except Fault Outcome) → Prop
  | overflow {s : Session} {b : Budget} : s.step? b = none → Ends s [b] none
  | last {s s' : Session} {b : Budget} {answer : Except Fault Outcome} :
    s.step? b = some (s', answer) → (∀ p, answer ≠ .ok (.pending p)) → Ends s [b] (some answer)
  | next {s s' : Session} {b : Budget} {bs : List Budget} {answer : Option (Except Fault Outcome)}
    (p : Float32) : s.step? b = some (s', .ok (.pending p)) → Ends s' bs answer →
    Ends s (b :: bs) answer

lemma step?_eq_none_or (s : Session) (b : Budget) :
    s.step? b = none ∨ s.step? b = some ((s.step b).1, (s.step b).2) := by
  rw [step?, checked]
  split
  · exact Or.inl rfl
  · exact Or.inr rfl

lemma Undisturbed.exists_ends (haccept : ∀ style, ∃ m, Machine.ofSettings settings style = .ok m)
    {bs : Stream' Budget} (hcalm : ∀ j, (bs.get j).Calm) (hlines : ∀ j, (bs.get j).lines ≠ some 0)
    (h : Undisturbed settings s) (hf : s.buffer.finished) :
    ∃ k ≤ max 1 s.buffer.linesLeft, ∃ answer, Ends s (bs.take k) answer ∧
      (answer = none ∨ answer = some (.ok .complete) ∨ answer = some (.error .emptyInput)) := by
  -- each pending step leaves fewer lines
  induction hl : s.buffer.linesLeft using Nat.strong_induction_on generalizing s bs with
  | _ l ih =>
    obtain ⟨hnext, hfail⟩ := h.step (hcalm 0)
    rcases s.step?_eq_none_or (bs.get 0) with hnone | hsome
    · exact ⟨1, Nat.le_max_left .., _, .overflow hnone, Or.inl rfl⟩
    cases hstep : (s.step (bs.get 0)).2 with
    | error e =>
      rcases hfail e hstep with rfl | ⟨style, hm⟩
      · rw [hstep] at hsome
        exact ⟨1, Nat.le_max_left .., _, .last hsome nofun, Or.inr (Or.inr rfl)⟩
      · obtain ⟨m, hok⟩ := haccept style
        rw [hok] at hm
        cases hm
    | ok outcome =>
      cases outcome with
      | complete =>
        rw [hstep] at hsome
        exact ⟨1, Nat.le_max_left .., _, .last hsome nofun, Or.inr (Or.inl rfl)⟩
      | pending p =>
        obtain ⟨n, hn, hpos, hstop⟩ := exists_passes_of_pending hf hstep
        have hread : 0 < n := by
          rcases hstop with hall | ⟨hread, _⟩
          · rw [hall]
            exact s.limit_pos (hlines 0)
          · exact hread
        have hleft := hn.left_eq
        have hcalmer (j : Nat) : (bs.tail.get j).Calm := hcalm (j + 1)
        have hmore (j : Nat) : (bs.tail.get j).lines ≠ some 0 := hlines (j + 1)
        obtain ⟨k, hk, answer, hends, hanswer⟩ := ih _ (by omega) hcalmer hmore hnext hn.finished rfl
        rw [hstep] at hsome
        exact ⟨k + 1, by omega, answer, .next p hsome hends, hanswer⟩

/-! Sessions of programs with content. -/

lemma Follows.of_finished {left : Option (List Char)} (h : Follows settings text left s)
    (hf : s.buffer.finished) : Follows settings text none s := by
  cases h with
  | waiting h =>
    obtain rfl := Option.isNone_iff_eq_none.mp (h.finished_eq.symm.trans hf)
    exact .waiting h
  | reads m past hm h =>
    obtain rfl := Option.isNone_iff_eq_none.mp (h.finished_eq.symm.trans hf)
    exact .reads m past hm h
  | ended m hm h => exact .ended m hm h

lemma Waiting.start_eq_ok (h : Waiting settings text none s) (hblank : ¬ Text.isBlankLine text)
    (hm : Machine.ofSettings settings (.ofProgram text) = .ok m) : s.start.2 = .ok true := by
  have htext : s.buffer.unread = text := (List.append_nil _).symm.trans h.unread_eq
  have hhead : s.buffer.head = .text (LineBuffer.headOf text) := by
    rw [LineBuffer.head_of_finished h.finished_eq (htext ▸ hblank), htext]
  rw [Session.start, h.run_eq, Option.isSome_none, if_neg Bool.false_ne_true, hhead]
  dsimp only
  rw [h.settings_eq, ← SlicerStyle.ofProgram, hm]

lemma Follows.start_reads (h : Follows settings text none s) (hc : s.complete = false)
    (hblank : ¬ Text.isBlankLine text)
    (hm : Machine.ofSettings settings (.ofProgram text) = .ok m) :
    ∃ past, Reads m past text none s.start.1 ∧ s.start.2 = .ok true := by
  obtain h | ⟨past, h⟩ | h := h.stage hm
  · have hok := h.start_eq_ok hblank hm
    obtain ⟨_, hne⟩ | ⟨m', hm', hr, _⟩ := h.start
    · exact absurd hok hne
    · rw [hm] at hm'
      obtain rfl := Except.ok.inj hm'
      exact ⟨[], hr, hok⟩
  · rw [h.start]
    exact ⟨past, h, rfl⟩
  · rw [h.complete] at hc
    cases hc

lemma Follows.step_ne_emptyInput (h : Follows settings text none s)
    (hblank : ¬ Text.isBlankLine text)
    (hm : Machine.ofSettings settings (.ofProgram text) = .ok m) :
    (s.step b).2 ≠ .error .emptyInput := by
  intro he
  have hstep := s.stepped b
  generalize s.step b = r at *
  cases hstep with
  | past | refused | awaiting | stopped | paused => cases he
  | failed e hc hs =>
    obtain ⟨_, _, hok⟩ := h.start_reads hc hblank hm
    rw [hok] at hs
    cases hs
  | drained s' hc _ hr hd =>
    obtain ⟨past, hreads, _⟩ := h.start_reads hc hblank hm
    obtain ⟨past', hreads⟩ := hreads.readLines b (s.limit b) 0
    rw [hr] at hreads
    obtain ⟨_, hok⟩ | ⟨_, _, hcontent⟩ := hreads.compact.conclude hd
    · rw [hok] at he
      cases he
    · rw [Reading.sawContent_of_not_isBlankLine hblank m] at hcontent
      cases hcontent

/-- One step is needed to see that no lines are left. -/
def stepsFor (n l : Nat) : Nat := max 1 ((l + n - 1) / n)

lemma stepsFor_of_le {n l : Nat} (hn : 0 < n) (hl : l ≤ n) : stepsFor n l = 1 := by
  have hone : (l + n - 1) / n < 2 := (Nat.div_lt_iff_lt_mul hn).mpr (by omega)
  rw [stepsFor]
  omega

lemma stepsFor_add {n l : Nat} (hn : 0 < n) (hl : 0 < l) : stepsFor n (l + n) = stepsFor n l + 1 := by
  have hone : 1 ≤ (l + n - 1) / n := (Nat.le_div_iff_mul_le hn).mpr (by omega)
  have hmore : l + n + n - 1 = (l + n - 1) + n := by omega
  rw [stepsFor, stepsFor, hmore, Nat.add_div_right _ hn]
  omega

lemma Follows.ends_complete (hm : Machine.ofSettings settings (.ofProgram text) = .ok m)
    (haccept : ∀ style, ∃ m, Machine.ofSettings settings style = .ok m)
    (hblank : ¬ Text.isBlankLine text) {n : Nat} (hn : 0 < n) {bs : Stream' Budget}
    (hcalm : ∀ j, (bs.get j).Calm) (hlines : ∀ j, (bs.get j).lines = some n)
    (htime : ∀ j done, (bs.get j).expired done = false) (h : Follows settings text none s)
    (hu : Undisturbed settings s) (hf : s.buffer.finished)
    (hdone : s.complete → s.buffer.linesLeft = 0)
    (hcount : (Text.rows text).length < LineBuffer.lineLimit)
    (hfits : ∀ k, ¬ settings.OverflowsAt text k) :
    Ends s (bs.take (stepsFor n s.buffer.linesLeft)) (some (.ok .complete)) := by
  induction hl : s.buffer.linesLeft using Nat.strong_induction_on generalizing s bs with
  | _ l ih =>
    have hsome : s.step? (bs.get 0) = some ((s.step (bs.get 0)).1, (s.step (bs.get 0)).2) :=
      h.step?_eq_some hm (bs.get 0) hcount hfits
    obtain ⟨hnext, hfail⟩ := hu.step (hcalm 0)
    have hlimit : s.limit (bs.get 0) = n := by rw [limit, hlines, Option.getD_some]
    cases hstep : (s.step (bs.get 0)).2 with
    | error e =>
      rcases hfail e hstep with rfl | ⟨style, hrefused⟩
      · exact absurd hstep (h.step_ne_emptyInput hblank hm)
      · obtain ⟨m', hok⟩ := haccept style
        rw [hok] at hrefused
        cases hrefused
    | ok outcome =>
      cases outcome with
      | complete =>
        have hle : l ≤ n := by
          cases hc : s.complete with
          | true => rw [← hl, hdone hc]; exact Nat.zero_le n
          | false => rw [← hl, ← hlimit]; exact linesLeft_le_of_complete hf hc hstep
        rw [stepsFor_of_le hn hle]
        rw [hstep] at hsome
        exact .last hsome (by simp)
      | pending p =>
        obtain ⟨k, hk, hpos, hstop⟩ := exists_passes_of_pending hf hstep
        have hall : k = n := by
          rcases hstop with hall | ⟨_, hover⟩
          · exact hall.trans hlimit
          · rw [Budget.isOver, htime, Bool.and_false] at hover
            cases hover
        have hleft := hk.left_eq
        rw [hall, hl] at hleft
        have hopen : (s.step (bs.get 0)).1.complete → (s.step (bs.get 0)).1.buffer.linesLeft = 0 := by
          intro hc'
          cases hc : s.complete with
          | true =>
            rw [← hl, hdone hc] at hleft
            omega
          | false =>
            have hend := (isDrained_of_step hc hc').1
            rw [hstep] at hend
            cases hend
        have hcalmer (j : Nat) : (bs.tail.get j).Calm := hcalm (j + 1)
        have hmore (j : Nat) : (bs.tail.get j).lines = some n := hlines (j + 1)
        have hrest := ih _ (by omega) hcalmer hmore (fun j => htime (j + 1)) (h.step _).1 hnext
          hk.finished hopen rfl
        rw [hleft, stepsFor_add hn hpos]
        rw [hstep] at hsome
        exact .next p hsome hrest

lemma Ends.exists_overflowsAt (hm : Machine.ofSettings settings (.ofProgram text) = .ok m)
    (hcount : (Text.rows text).length < LineBuffer.lineLimit) {bs : List Budget}
    {answer : Option (Except Fault Outcome)} (h : Ends s bs answer)
    (hf : Follows settings text none s) (hnone : answer = none) :
    ∃ k, settings.OverflowsAt text k := by
  induction h with
  | overflow hover =>
    obtain ⟨k, _, hk⟩ := (hf.step?_eq_none_iff hm _ hcount).mp hover
    exact ⟨k, hk⟩
  | last => cases hnone
  | @next s s' b _ _ p hstep _ ih =>
    refine ih ?_ hnone
    have hnext := (hf.step b).1
    rwa [(checked_eq_some_iff.mp hstep).1] at hnext

theorem step?_progress (haccept : ∀ style, ∃ m, Machine.ofSettings settings style = .ok m) :
    (∀ (s : Session) (b : Budget), s.buffer.finished → b.lines ≠ some 0 →
      ∀ s' answer, s.step? b = some (s', answer) →
        answer = .ok .complete ∨ (∃ e, answer = .error e) ∨
          s.buffer.lineNumber < s'.buffer.lineNumber) ∧
    (∀ (s : Session) (bs : Stream' Budget), s.buffer.finished → Undisturbed settings s →
      (∀ j, (bs.get j).Calm ∧ (bs.get j).lines ≠ some 0) →
      ∃ k ≤ max 1 s.buffer.linesLeft, ∃ answer, Ends s (bs.take k) answer ∧
        (answer = none ∨ answer = some (.ok .complete) ∨ answer = some (.error .emptyInput))) ∧
    ∀ (host : Host) (expected : Option Nat) (text : List Char) (events : List Event),
      Schedule (some text) events → (Text.rows text).length < LineBuffer.lineLimit →
      let s := ({ settings, host, expected } : Session).afterAll events
      (∀ b, s.step? b = none ↔
        ∃ k < (s.step b).1.buffer.lineNumber, settings.OverflowsAt text k) ∧
      (s.buffer.finished → Undisturbed settings s → (∀ k, ¬ settings.OverflowsAt text k) →
        (∀ bs answer, Ends s bs answer → answer ≠ none) ∧
        ((∃ row ∈ Text.rows text, ¬ Text.isBlankLine (Text.bare row)) →
          ∀ (n : Nat) (bs : Stream' Budget), 0 < n →
            (∀ j, (bs.get j).Calm ∧ (bs.get j).lines = some n ∧
              ∀ done, (bs.get j).expired done = false) →
            Ends s (bs.take (max 1 ((s.buffer.linesLeft + n - 1) / n))) (some (.ok .complete)))) := by
  refine ⟨fun s b hf hb s' answer hs => ?_, fun s bs hf hu hbs => ?_, ?_⟩
  · obtain ⟨hs, _⟩ := checked_eq_some_iff.mp hs
    obtain ⟨rfl, rfl⟩ := Prod.ext_iff.mp hs
    cases hstep : (s.step b).2 with
    | error e => exact Or.inr (Or.inl ⟨e, rfl⟩)
    | ok outcome =>
      cases outcome with
      | complete => exact Or.inl rfl
      | pending p =>
        obtain ⟨n, hn, _, hstop⟩ := exists_passes_of_pending hf hstep
        have hline := hn.line_eq
        have hlimit := s.limit_pos hb
        exact Or.inr (Or.inr (by omega))
  · exact hu.exists_ends haccept (fun j => (hbs j).1) (fun j => (hbs j).2) hf
  · intro host expected text events hs hcount s
    obtain ⟨m, hm⟩ := haccept (.ofProgram text)
    obtain ⟨left, hfollows⟩ := (follows_new settings host expected text).afterAll hs
    refine ⟨fun b => hfollows.step?_eq_none_iff hm b hcount, fun hf hu hfits => ⟨?_, ?_⟩⟩
    · intro bs answer hends hnone
      obtain ⟨k, hk⟩ := hends.exists_overflowsAt hm hcount (hfollows.of_finished hf) hnone
      exact hfits k hk
    intro ⟨row, hrow, hcontent⟩ n bs hn hbs
    have hblank : ¬ Text.isBlankLine text := fun h => hcontent (Text.isBlankLine_bare h hrow)
    have hcut : ({ settings, host, expected } : Session).buffer.Cuts text (some text) [] :=
      ⟨rfl, rfl, rfl⟩
    have hdone : s.complete → s.buffer.linesLeft = 0 := fun hc =>
      (LineBuffer.isDrained_iff hf).mp (drained_afterAll hcut hs nofun hc)
    exact (hfollows.of_finished hf).ends_complete hm haccept hblank hn (fun j => (hbs j).1)
      (fun j => (hbs j).2.1) (fun j => (hbs j).2.2) hu hf hdone hcount hfits

theorem step?_progress_three_lines :
    let text := "G90\nG1 X10 E1\n;end".toList
    let s := ({ settings := {} } : Session).afterAll [.push text, .step {}, .finish]
    let one : Budget := { lines := some 1, expired := fun _ => true }
    let two : Budget := { lines := some 2 }
    (∀ style, ∃ m, Machine.ofSettings {} style = .ok m) ∧
      Schedule (some text) [.push text, .step {}, .finish] ∧ s.buffer.finished ∧
      Undisturbed {} s ∧ (∀ k, ¬ ({} : Settings).OverflowsAt text k) ∧
      (∃ s' answer, s.step? one = some (s', answer) ∧ s.buffer.lineNumber < s'.buffer.lineNumber) ∧
      (∃ k ≤ 3, ∃ answer, Ends s ((Stream'.const one).take k) (some answer)) ∧
      Ends s [two, two] (some (.ok .complete)) := by
  intro text s one two
  have haccept (style : SlicerStyle) : ∃ m, Machine.ofSettings {} style = .ok m :=
    Machine.exists_ofTools_iff.mpr (by decide)
  have hschedule : Schedule (some text) [.push text, .step {}, .finish] :=
    .push text (.step {} (.finish (.nil none)))
  have hf : s.buffer.finished := by decide +kernel
  have hu : Undisturbed {} s := ⟨rfl, by decide +kernel, fun _ _ => nofun⟩
  have hleft : s.buffer.linesLeft = 3 := by decide +kernel
  have hmore : (s.step one).2.isOk ∧ (s.step one).2 ≠ .ok .complete := by decide +kernel
  have hcontent : ∃ row ∈ Text.rows text, ¬ Text.isBlankLine (Text.bare row) := by decide +kernel
  have hcount : (Text.rows text).length < LineBuffer.lineLimit := by decide +kernel
  have hfits (k : Nat) : ¬ ({} : Settings).OverflowsAt text k := fun hk => by
    have hsome : (Interpretation.ofText? {} text).isSome := by decide +kernel
    obtain ⟨m, hm⟩ := haccept (.ofProgram text)
    rw [(Interpretation.ofText?_eq_none_iff hm hcount).mpr ⟨k, hk⟩] at hsome
    cases hsome
  obtain ⟨hstep, hloop, hexact⟩ := step?_progress haccept
  obtain ⟨hnone, hanswers⟩ := hexact {} none text _ hschedule hcount
  obtain ⟨hanswer, hends⟩ := hanswers hf hu hfits
  refine ⟨haccept, hschedule, hf, hu, hfits, ?_, ?_, ?_⟩
  · rcases s.step?_eq_none_or one with h | h
    · obtain ⟨k, _, hk⟩ := (hnone one).mp h
      exact absurd hk (hfits k)
    refine ⟨_, _, h, ?_⟩
    rcases hstep s one hf (by decide) _ _ h with h | ⟨e, h⟩ | h
    · exact absurd h hmore.2
    · rw [h] at hmore
      cases hmore.1
    · exact h
  · obtain ⟨k, hk, answer, hends, _⟩ :=
      hloop s (Stream'.const one) hf hu fun _ => ⟨fun _ _ h => h, nofun⟩
    obtain ⟨answer, rfl⟩ := Option.ne_none_iff_exists'.mp (hanswer _ _ hends)
    exact ⟨k, hleft ▸ hk, answer, hends⟩
  · have hends := hends hcontent 2 (Stream'.const two) (by decide)
      fun _ => ⟨fun _ _ h => h, rfl, fun _ => rfl⟩
    rwa [hleft] at hends

theorem step?_eq_none_long_arc :
    let text := "G2 I1000000000000000000000000000000".toList
    let s := ({ settings := {} } : Session).afterAll [.push text, .finish]
    let one : Budget := { lines := some 1 }
    (∀ style, ∃ m, Machine.ofSettings {} style = .ok m) ∧
      Schedule (some text) [.push text, .finish] ∧ s.buffer.finished ∧ Undisturbed {} s ∧
      s.step? one = none ∧ Ends s [one] none := by
  intro text s one
  have haccept (style : SlicerStyle) : ∃ m, Machine.ofSettings {} style = .ok m :=
    Machine.exists_ofTools_iff.mpr (by decide)
  have hover : (s.step? one).isNone := by decide +kernel
  have hnone : s.step? one = none := Option.isNone_iff_eq_none.mp hover
  exact ⟨haccept, .push text (.finish (.nil none)), rfl, ⟨rfl, rfl, fun _ _ => nofun⟩, hnone,
    .overflow hnone⟩

end Session
end Toolpath
