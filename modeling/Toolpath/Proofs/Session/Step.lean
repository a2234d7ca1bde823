import Toolpath.Proofs.Session.Timeline

/-! All that one step of a session can do, how many lines it reads, and what is left after it. -/

namespace Toolpath

namespace Text

lemma rows_eq_nil_iff {cs : List Char} : rows cs = [] ↔ cs = [] := by
  constructor
  · intro h
    rw [← flatten_rows cs, h]
    rfl
  · rintro rfl
    rfl

lemma length_rows_le (cs : List Char) : (rows cs).length ≤ cs.length := by
  induction cs with
  | nil => exact Nat.le_refl 0
  | cons c cs ih =>
    rw [rows]
    split
    · exact Nat.succ_le_succ ih
    · split
      · simp
      · next hrows =>
        rw [hrows] at ih
        exact Nat.le_succ_of_le ih

end Text

namespace LineBuffer

def linesLeft (b : LineBuffer) : Nat := (Text.rows b.unread).length

structure Passes (n : Nat) (b b' : LineBuffer) : Prop where
  finished : b'.finished
  line_eq : b'.lineNumber = b.lineNumber + n
  left_eq : b.linesLeft = b'.linesLeft + n

variable {b b' b'' : LineBuffer} {m n : Nat} {line : List Char}

lemma isDrained_iff (hf : b.finished) : b.isDrained ↔ b.linesLeft = 0 := by
  rw [isDrained, hf, Bool.true_and, List.isEmpty_iff, linesLeft, List.length_eq_zero_iff,
    Text.rows_eq_nil_iff]

lemma linesLeft_le (b : LineBuffer) : b.linesLeft ≤ b.unread.length := Text.length_rows_le _

namespace Passes

lemma refl (hf : b.finished) : Passes 0 b b := ⟨hf, rfl, rfl⟩

lemma trans (h : Passes m b b') (h' : Passes n b' b'') : Passes (m + n) b b'' where
  finished := h'.finished
  line_eq := by rw [h'.line_eq, h.line_eq, Nat.add_assoc]
  left_eq := by rw [h.left_eq, h'.left_eq, Nat.add_assoc, Nat.add_comm n m]

lemma compact (h : Passes n b b') : Passes n b b'.compact := ⟨h.finished, h.line_eq, h.left_eq⟩

lemma next? (hf : b.finished) (h : b.next? = some (line, b')) : Passes 1 b b' := by
  obtain ⟨row, hrows, _, hskip, _⟩ := next?_eq_some h fun _ => (rfl : [] = [])
  rw [List.append_nil, List.append_nil] at hrows
  refine ⟨?_, ?_, ?_⟩
  · rw [hskip]
    exact hf
  · rw [hskip]
    rfl
  · rw [linesLeft, hrows]
    rfl

end Passes

lemma head_ne_awaited (hf : b.finished) : b.head ≠ .awaited := by
  by_cases h : isBarren b.unread
  · rw [head_of_isBarren hf h]
    nofun
  · rw [head_of_not_isBarren hf h]
    nofun

end LineBuffer

namespace Session

variable {s : Session} {b : Budget} {text : List Char}

inductive Stepped (s : Session) (b : Budget) : Session × Except Fault Outcome → Prop
  | past : s.complete = true → Stepped s b (s, .ok .complete)
  | refused : Stepped s b (s, .error .cancelled)
  | failed (e : Fault) : s.complete = false → s.start.2 = .error e →
    Stepped s b (s.start.1, .error e)
  | awaiting : s.start.2 = .ok false → Stepped s b (s.start.1, .ok (.pending s.start.1.progress))
  | stopped (s' : Session) : readLines b (s.limit b) 0 s.start.1 = (s', true) →
    Stepped s b (s'.compact, .error .cancelled)
  | drained (s' : Session) : s.complete = false → s.start.2 = .ok true →
    readLines b (s.limit b) 0 s.start.1 = (s', false) → s'.buffer.isDrained →
    Stepped s b s'.compact.conclude
  | paused (s' : Session) : readLines b (s.limit b) 0 s.start.1 = (s', false) →
    ¬ s'.buffer.isDrained →
    Stepped s b (s'.compact.report s'.compact.progress .loading, .ok (.pending s'.compact.progress))

lemma stepped (s : Session) (b : Budget) : Stepped s b (s.step b) := by
  have hlimit : s.start.1.limit b = s.limit b := by rw [limit, buffer_start, limit]
  rw [step]
  split
  · next hc => exact .past hc
  · next hc =>
    replace hc := Bool.eq_false_iff.mpr hc
    split
    · exact .refused
    · split
      · next s' e he =>
        have hfailed := Stepped.failed (b := b) e hc (congrArg Prod.snd he)
        rwa [he] at hfailed
      · next s' he =>
        have hawaiting := Stepped.awaiting (b := b) (congrArg Prod.snd he)
        rwa [he] at hawaiting
      · next s' he =>
        obtain rfl : s.start.1 = s' := congrArg Prod.fst he
        rw [resume, hlimit]
        split
        · next s' hr => exact .stopped s' hr
        · next s' hr =>
          dsimp only
          split
          · next hd => exact .drained s' hc (congrArg Prod.snd he) hr hd
          · next hd => exact .paused s' hr hd

lemma exists_passes_readLines (hf : s.buffer.finished) (limit done : Nat) :
    ∃ n ≤ limit, s.buffer.Passes n (readLines b limit done s).1.buffer ∧
      ((readLines b limit done s).2 = false → n = limit ∨
        (readLines b limit done s).1.buffer.linesLeft = 0 ∨ 0 < n ∧ b.isOver (done + n)) := by
  induction limit generalizing done s with
  | zero => exact ⟨0, Nat.le_refl 0, .refl hf, fun _ => Or.inl rfl⟩
  | succ limit ih =>
    have hstay : s.buffer.Passes 0 (s.disturb (b.meanwhile done)).buffer := .refl hf
    rw [readLines]
    dsimp only
    split
    · refine ⟨0, Nat.zero_le _, hstay, ?_⟩
      intro hflag
      cases hflag
    · split
      · next hn =>
        have hnone := LineBuffer.next?_eq_none hn hf
        refine ⟨0, Nat.zero_le _, hstay, fun _ => Or.inr (Or.inl ?_)⟩
        exact List.length_eq_zero_iff.mpr (Text.rows_eq_nil_iff.mpr hnone)
      · next line buffer hn =>
        have hone : s.buffer.Passes 1 buffer := .next? hf hn
        split
        · next hover =>
          exact ⟨1, Nat.succ_le_succ (Nat.zero_le _), hone,
            fun _ => Or.inr (Or.inr ⟨Nat.one_pos, hover⟩)⟩
        · obtain ⟨n, hle, hn, hstop⟩ :=
            @ih ({ s.disturb (b.meanwhile done) with buffer }.accept line) hone.finished (done + 1)
          refine ⟨1 + n, by omega, hone.trans hn, fun hflag => ?_⟩
          rcases hstop hflag with hall | hnone | ⟨hpos, hover⟩
          · exact Or.inl (by omega)
          · exact Or.inr (Or.inl hnone)
          · rw [Nat.add_assoc] at hover
            exact Or.inr (Or.inr ⟨by omega, hover⟩)

lemma start_ne_awaited (hf : s.buffer.finished) : s.start.2 ≠ .ok false := by
  intro h
  rw [start] at h
  split at h
  · cases h
  · split at h
    · next hhead => exact LineBuffer.head_ne_awaited hf hhead
    · cases h
    · dsimp only at h
      split at h <;> cases h

lemma exists_passes_of_pending {p : Float32} (hf : s.buffer.finished)
    (hp : (s.step b).2 = .ok (.pending p)) :
    ∃ n, s.buffer.Passes n (s.step b).1.buffer ∧ 0 < (s.step b).1.buffer.linesLeft ∧
      (n = s.limit b ∨ 0 < n ∧ b.isOver n) := by
  have hstep := s.stepped b
  generalize s.step b = r at *
  cases hstep with
  | past | refused | failed | stopped => cases hp
  | awaiting he => exact absurd he (start_ne_awaited hf)
  | drained s' =>
    rw [conclude] at hp
    split at hp <;> cases hp
  | paused s' hr hd =>
    have hf' : s.start.1.buffer.finished := s.buffer_start ▸ hf
    obtain ⟨n, _, hn, hstop⟩ := exists_passes_readLines hf' (s.limit b) 0 (b := b)
    rw [hr, buffer_start] at hn
    rw [hr] at hstop
    have hleft : s'.buffer.linesLeft ≠ 0 := fun h => hd ((LineBuffer.isDrained_iff hn.finished).mpr h)
    refine ⟨n, hn.compact, Nat.pos_of_ne_zero hleft, ?_⟩
    rcases hstop rfl with hall | hnone | ⟨hpos, hover⟩
    · exact Or.inl hall
    · exact absurd hnone hleft
    · rw [Nat.zero_add] at hover
      exact Or.inr ⟨hpos, hover⟩

lemma limit_pos (s : Session) (hb : b.lines ≠ some 0) : 0 < s.limit b := by
  rw [limit]
  cases hlines : b.lines with
  | none => exact Nat.succ_pos _
  | some n =>
    rw [hlines] at hb
    exact Nat.pos_of_ne_zero fun h => hb (congrArg some h)

lemma step_ne_pending (hf : s.buffer.finished) (hlines : b.lines = none)
    (htime : ∀ done, b.expired done = false) (p : Float32) : (s.step b).2 ≠ .ok (.pending p) := by
  intro hp
  obtain ⟨n, hn, _, hstop⟩ := exists_passes_of_pending hf hp
  have hle : n ≤ s.buffer.unread.length := by
    have hleft := hn.left_eq
    have hbound := s.buffer.linesLeft_le
    omega
  rcases hstop with hall | ⟨_, hover⟩
  · rw [limit, hlines, Option.getD_none] at hall
    omega
  · rw [Budget.isOver, htime, Bool.and_false] at hover
    cases hover

lemma linesLeft_le_of_complete (hf : s.buffer.finished) (hc : s.complete = false)
    (h : (s.step b).2 = .ok .complete) : s.buffer.linesLeft ≤ s.limit b := by
  have hstep := s.stepped b
  generalize s.step b = r at *
  cases hstep with
  | past hpast => rw [hc] at hpast; cases hpast
  | refused | failed | awaiting | stopped | paused => cases h
  | drained s' _ _ hr hd =>
    have hf' : s.start.1.buffer.finished := s.buffer_start ▸ hf
    obtain ⟨n, hle, hn, _⟩ := exists_passes_readLines hf' (s.limit b) 0 (b := b)
    rw [hr, buffer_start] at hn
    have hleft := hn.left_eq
    have hnone := (LineBuffer.isDrained_iff hn.finished).mp hd
    omega

lemma complete_start (s : Session) : s.start.1.complete = s.complete := by
  rw [start]
  split
  · rfl
  · split
    · rfl
    · rfl
    · dsimp only
      split <;> rfl

lemma complete_readLines (b : Budget) (limit done : Nat) (s : Session) :
    (readLines b limit done s).1.complete = s.complete := by
  induction limit generalizing done s with
  | zero => rfl
  | succ limit ih =>
    rw [readLines]
    dsimp only
    split
    · rfl
    · split
      · rfl
      · split
        · rfl
        · exact ih ..

lemma isDrained_of_step (hc : s.complete = false) (h : (s.step b).1.complete) :
    (s.step b).2 = .ok .complete ∧ (s.step b).1.buffer.isDrained := by
  have hread {s' : Session} {flag : Bool}
      (hr : readLines b (s.limit b) 0 s.start.1 = (s', flag)) : s'.complete = false := by
    have hsame := complete_readLines b (s.limit b) 0 s.start.1
    rw [hr, complete_start] at hsame
    exact hsame.trans hc
  have hstep := s.stepped b
  generalize s.step b = r at *
  cases hstep with
  | past | refused => rw [hc] at h; cases h
  | failed | awaiting => rw [complete_start, hc] at h; cases h
  | stopped s' hr | paused s' hr =>
    have hopen : s'.complete = true := h
    rw [hread hr] at hopen
    cases hopen
  | drained s' _ _ hr hd =>
    refine ⟨?_, by rw [buffer_conclude]; exact hd⟩
    rw [conclude] at h ⊢
    split at h
    · next hcontent => rw [if_pos hcontent]
    · have hopen : s'.complete = true := h
      rw [hread hr] at hopen
      cases hopen

lemma drained_afterAll {left : Option (List Char)} {past : List (List Char)} {events : List Event}
    (hcut : s.buffer.Cuts text left past) (hs : Schedule left events)
    (h : s.complete → s.buffer.isDrained) :
    (s.afterAll events).complete → (s.afterAll events).buffer.isDrained := by
  induction hs generalizing s past with
  | nil left => exact h
  | push chunk _ ih =>
    -- a session to which text is still to come is not complete
    refine ih (s := s.push chunk) hcut.push fun hc => ?_
    obtain ⟨hf, -⟩ := Bool.and_eq_true_iff.mp (h hc)
    rw [hcut.finished_eq] at hf
    cases hf
  | finish _ ih =>
    refine ih (s := s.finish) hcut.finish fun hc => ?_
    exact Bool.and_eq_true_iff.mpr ⟨rfl, (Bool.and_eq_true_iff.mp (h hc)).2⟩
  | step b _ ih =>
    obtain ⟨past', hcut'⟩ := cuts_step hcut b
    refine ih hcut' fun hc => ?_
    cases hopen : s.complete with
    | false => exact (isDrained_of_step hopen hc).2
    | true =>
      have hstay : s.after (.step b) = s := by rw [after, step, if_pos hopen]
      rw [hstay]
      exact h hopen
  | cancel _ ih => exact ih (s := s.cancel) hcut h
  | reset _ ih => exact ih (s := s.reset) hcut h

end Session
end Toolpath
