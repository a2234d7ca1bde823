import Toolpath.Proofs.Session.Reading

/-! However a program arrives, and whenever it is read, a session has done what line by line
interpretation does. -/

namespace Toolpath
namespace Session

inductive Event
  | push (chunk : List Char)
  | finish
  | step (b : Budget)
  | cancel
  | reset

def after (s : Session) : Event → Session
  | .push chunk => s.push chunk
  | .finish => s.finish
  | .step b => (s.step b).1
  | .cancel => s.cancel
  | .reset => s.reset

def afterAll (s : Session) (events : List Event) : Session := events.foldl after s

/-- The orders of events that deliver a text chunk by chunk, as far as they go. -/
inductive Schedule : Option (List Char) → List Event → Prop
  | nil (left : Option (List Char)) : Schedule left []
  | push {rest : List Char} {events : List Event} (chunk : List Char) :
    Schedule (some rest) events → Schedule (some (chunk ++ rest)) (.push chunk :: events)
  | finish {events : List Event} : Schedule none events → Schedule (some []) (.finish :: events)
  | step {left : Option (List Char)} {events : List Event} (b : Budget) :
    Schedule left events → Schedule left (.step b :: events)
  | cancel {left : Option (List Char)} {events : List Event} :
    Schedule left events → Schedule left (.cancel :: events)
  | reset {left : Option (List Char)} {events : List Event} :
    Schedule left events → Schedule left (.reset :: events)

variable {settings : Settings} {m : Machine} {past : List (List Char)} {text : List Char}
  {left : Option (List Char)} {s : Session}

lemma follows_new (settings : Settings) (host : Host) (expected : Option Nat) (text : List Char) :
    Follows settings text (some text) { settings, host, expected } :=
  .waiting ⟨rfl, rfl, rfl, rfl, rfl, fun _ => rfl⟩

lemma Follows.afterAll {events : List Event} (h : Follows settings text left s)
    (hs : Schedule left events) : ∃ left', Follows settings text left' (s.afterAll events) := by
  induction hs generalizing s with
  | nil left => exact ⟨left, h⟩
  | push chunk _ ih => exact ih h.push
  | finish _ ih => exact ih h.finish
  | step b _ ih => exact ih (h.step b).1
  | cancel _ ih => exact ih (h.host _)
  | reset _ ih => exact ih (h.host _)

/-! Whole texts in one step. -/

lemma readLines_unlimited (limit done : Nat) (hc : s.isCancelled = false)
    (hf : s.buffer.finished) (hl : s.buffer.unread.length < limit) :
    (readLines .unlimited limit done s).2 = false ∧
      (readLines .unlimited limit done s).1.buffer.isDrained := by
  induction limit generalizing done s with
  | zero => exact absurd hl (Nat.not_lt_zero _)
  | succ limit ih =>
    have hcalm : s.disturb (Budget.unlimited.meanwhile done) = s := rfl
    rw [readLines, hcalm]
    dsimp only
    rw [if_neg (by simp [hc])]
    cases hn : s.buffer.next? with
    | none =>
      refine ⟨rfl, ?_⟩
      rw [LineBuffer.isDrained, hf, LineBuffer.next?_eq_none hn hf]
      rfl
    | some next =>
      obtain ⟨line, buffer⟩ := next
      obtain ⟨row, _, _, hb, hlt⟩ := LineBuffer.next?_eq_some hn fun _ => (rfl : [] = [])
      have htime : Budget.unlimited.isOver (done + 1) = false := by
        rw [Budget.isOver]
        exact Bool.and_false _
      dsimp only
      rw [htime, if_neg Bool.false_ne_true]
      refine ih (done + 1) hc ?_ (Nat.lt_of_lt_of_le hlt (Nat.lt_succ_iff.mp hl))
      change buffer.finished = true
      rw [hb]
      exact hf

lemma Reads.resume_unlimited (h : Reads m past text left s) (hc : s.isCancelled = false)
    (hf : s.buffer.finished) :
    (s.resume .unlimited).2 =
      if (Reading.ofRows m (Text.rows text)).sawContent then .ok .complete
      else .error .emptyInput := by
  obtain ⟨past', hr⟩ := h.readLines .unlimited (s.limit .unlimited) 0
  obtain ⟨hdone, hd⟩ := readLines_unlimited (s.limit .unlimited) 0 hc hf (Nat.lt_succ_self _)
  rw [Session.resume, ← Prod.eta (Session.readLines _ _ _ _), hdone]
  dsimp only
  replace hr := hr.compact
  replace hd : (Session.readLines .unlimited (s.limit .unlimited) 0 s).1.compact.buffer.isDrained := hd
  rw [if_pos hd]
  rcases hr.conclude hd with ⟨hend, hok⟩ | ⟨_, hempty, hblank⟩
  · rw [if_pos hend.content, hok]
  · rw [hblank, if_neg Bool.false_ne_true, hempty]

lemma Waiting.step_text (h : Waiting settings text none s) (hc : s.isCancelled = false)
    (hat : s.host.cancelAt = none) (hm : Machine.ofSettings settings (.ofProgram text) = .ok m)
    (hhead : s.buffer.head = .text (LineBuffer.headOf text)) :
    (s.step .unlimited).2 =
      if (Reading.ofRows m (Text.rows text)).sawContent then .ok .complete
      else .error .emptyInput := by
  have hf : s.buffer.finished := h.finished_eq
  have hstart : s.start =
      (({ s with style := .ofProgram text, run := some { machine := m } }.report 0.0 .loading),
        .ok true) := by
    rw [Session.start, h.run_eq, Option.isSome_none, if_neg Bool.false_ne_true, hhead]
    dsimp only
    rw [h.settings_eq, ← SlicerStyle.ofProgram, hm]
  rw [Session.step, h.incomplete, hc, if_neg Bool.false_ne_true, if_neg Bool.false_ne_true, hstart]
  obtain ⟨_, hne⟩ | ⟨m', hm', hr, _⟩ := h.start
  · rw [hstart] at hne
    exact absurd rfl hne
  · rw [hm] at hm'
    obtain rfl := Except.ok.inj hm'
    rw [hstart] at hr
    refine hr.resume_unlimited ?_ hf
    rw [← hc, isCancelled, report, Host.receive, hat, if_neg (Option.some_ne_none _).symm]
    rfl

lemma Waiting.step_unlimited (h : Waiting settings text none s) (hc : s.isCancelled = false)
    (hat : s.host.cancelAt = none) (hm : Machine.ofSettings settings (.ofProgram text) = .ok m)
    (hcontent : (Reading.ofRows m (Text.rows text)).sawContent) :
    (s.step .unlimited).2 = .ok .complete := by
  have hf : s.buffer.finished := h.finished_eq
  have htext : s.buffer.unread = text := (List.append_nil _).symm.trans h.unread_eq
  have hhead : s.buffer.head = .text (LineBuffer.headOf text) := by
    rw [LineBuffer.head_of_finished hf (htext ▸ Reading.not_isBlankLine hcontent), htext]
  rw [h.step_text hc hat hm hhead, if_pos hcontent]

lemma Ended.output_eq (h : Ended m text s) :
    s.output =
      let r := (Reading.ofRows m (Text.rows text)).close
      ⟨r.store, r.machine.tools, r.machine.diagnostics, .ofProgram text⟩ := by
  rw [output, h.run_eq, h.style_eq]

lemma Follows.exists_ended (h : Follows settings text left s) (hc : s.complete) :
    ∃ m, Machine.ofSettings settings (.ofProgram text) = .ok m ∧ Ended m text s := by
  cases h with
  | waiting h => rw [h.incomplete] at hc; cases hc
  | reads m past hm h => rw [h.incomplete] at hc; cases hc
  | ended m hm h => exact ⟨m, hm, h⟩

lemma drive_eq_step {b : Budget} (h : ∀ progress, (s.step b).2 ≠ .ok (.pending progress))
    (fuel : Nat) : drive b fuel s = s.step b := by
  cases fuel with
  | zero => rfl
  | succ fuel =>
    rw [drive]
    split
    · next hs => exact absurd (congrArg Prod.snd hs) (h _)
    · rfl

lemma waiting_new (settings : Settings) (text : List Char) :
    Waiting settings text none (({ settings } : Session).push text).finish :=
  ⟨rfl, rfl, rfl, rfl, List.append_nil text, fun _ => rfl⟩

lemma exists_ended (hm : Machine.ofSettings settings (.ofProgram text) = .ok m)
    (hcontent : (Reading.ofRows m (Text.rows text)).sawContent) :
    ∃ s, (({ settings } : Session).push text).runToEnd = (s, .ok .complete) ∧ Ended m text s := by
  have hw := waiting_new settings text
  have hstep := hw.step_unlimited rfl rfl hm hcontent
  obtain ⟨hf, hcomplete⟩ := (Follows.waiting hw).step .unlimited
  obtain ⟨m', hm', hend⟩ := hf.exists_ended (hcomplete hstep)
  rw [hm] at hm'
  obtain rfl := Except.ok.inj hm'
  refine ⟨_, ?_, hend⟩
  rw [runToEnd, drive_eq_step (by rw [hstep]; nofun), ← Prod.eta (Session.step _ _), hstep]

lemma Ended.overflowed_eq (h : Ended m text s) :
    s.overflowed = ((Reading.ofRows m (Text.rows text)).close.machine.overflowed ||
      LineBuffer.lineLimit ≤ (Text.rows text).length) := by
  rw [overflowed, h.run_eq, h.line_eq, Option.any_some]

lemma Ended.ofText (h : Ended m text s)
    (hm : Machine.ofSettings settings (.ofProgram text) = .ok m) :
    Interpretation.ofText settings text = .ok s.output := by
  obtain ⟨s', hrun, hend⟩ := exists_ended hm h.content
  rw [Interpretation.ofText, hrun, h.output_eq, ← hend.output_eq]

lemma Ended.ofText? (h : Ended m text s)
    (hm : Machine.ofSettings settings (.ofProgram text) = .ok m) :
    Interpretation.ofText? settings text = if s.overflowed then none else some (.ok s.output) := by
  obtain ⟨s', hrun, hend⟩ := exists_ended hm h.content
  rw [Interpretation.ofText?, runToEnd?, hrun, checked, hend.overflowed_eq, h.overflowed_eq,
    h.output_eq, ← hend.output_eq, apply_ite (Option.map _)]
  rfl

theorem afterAll_interprets (settings : Settings) (host : Host) (expected : Option Nat)
    {text : List Char} {events : List Event} (h : Schedule (some text) events) :
    let s := ({ settings, host, expected } : Session).afterAll events
    (∀ r, s.run = some r →
      s.style = .ofProgram text ∧ s.buffer.lineNumber ≤ (Text.rows text).length ∧
      ∃ m, Machine.ofSettings settings (.ofProgram text) = .ok m ∧
        let q := (Reading.ofRows m ((Text.rows text).take s.buffer.lineNumber)).run
        r.store = q.store ∧ r.machine.state = q.machine.state ∧
          r.machine.classifier = q.machine.classifier ∧
          r.machine.diagnostics = q.machine.diagnostics ∧
          r.machine.overflowed = q.machine.overflowed) ∧
      ∀ b, (s.step b).2 = .ok .complete →
        Interpretation.ofText settings text = .ok (s.step b).1.output ∧
        Interpretation.ofText? settings text = (s.step? b).map fun r => .ok r.1.output := by
  intro s
  obtain ⟨left, hf⟩ := (follows_new settings host expected text).afterAll h
  constructor
  · intro r hr
    cases hf with
    | waiting hf => rw [hf.run_eq] at hr; cases hr
    | reads m past hm hf =>
      obtain ⟨r', hr', hq⟩ := Option.map_eq_some_iff.mp hf.reading_eq
      rw [hr] at hr'
      obtain rfl := Option.some.inj hr'
      refine ⟨hf.style_eq, ?_, m, hm, ?_⟩
      · rw [hf.line_eq, hf.rows_eq, List.length_append]
        exact Nat.le_add_right ..
      · rw [hf.line_eq, hf.rows_eq, List.take_left, ← hq]
        exact ⟨rfl, rfl, rfl, rfl, rfl⟩
    | ended m hm hf =>
      rw [hf.run_eq] at hr
      obtain rfl := Option.some.inj hr
      refine ⟨hf.style_eq, Nat.le_of_eq hf.line_eq, m, hm, ?_⟩
      rw [hf.line_eq, List.take_length]
      exact ⟨rfl, rfl, rfl, rfl, rfl⟩
  · intro b hb
    obtain ⟨hf, hcomplete⟩ := hf.step b
    obtain ⟨m, hm, hend⟩ := hf.exists_ended (hcomplete hb)
    refine ⟨hend.ofText hm, ?_⟩
    rw [hend.ofText? hm, step?, checked, apply_ite (Option.map _)]
    rfl

theorem afterAll_interprets_three_chunks :
    let text := "G1 X".toList ++ ("1 E1\n;e".toList ++ ("nd".toList ++ []))
    let events : List Event := [.push "G1 X".toList, .step {}, .push "1 E1\n;e".toList, .cancel,
      .step {}, .reset, .push "nd".toList, .finish, .step { lines := some 0 },
      .step { meanwhile := fun done token => if done = 1 then token.cancel else token }, .reset]
    let s := ({ settings := {} } : Session).afterAll events
    Schedule (some text) events ∧ s.buffer.lineNumber = 1 ∧
      (∃ r m, s.run = some r ∧ r.store = (Reading.ofRows m ((Text.rows text).take 1)).run.store) ∧
      (s.step {}).2 = .ok .complete ∧
      Interpretation.ofText {} text = .ok (s.step {}).1.output := by
  intro text events s
  have h : Schedule (some text) events :=
    .push _ (.step _ (.push _ (.cancel (.step _ (.reset (.push _ (.finish (.step _ (.step _
      (.reset (.nil none)))))))))))
  have hline : s.buffer.lineNumber = 1 := by decide +kernel
  have hrun : s.run.isSome := by decide +kernel
  have hcomplete : (s.step {}).2 = .ok .complete := by rfl
  obtain ⟨hmoment, hend⟩ := afterAll_interprets {} {} none h
  obtain ⟨r, hr⟩ := Option.isSome_iff_exists.mp hrun
  obtain ⟨_, _, m, _, hstore, _⟩ := hmoment r hr
  exact ⟨h, hline, ⟨r, m, hr, hline ▸ hstore⟩, hcomplete, (hend {} hcomplete).1⟩

end Session
end Toolpath
