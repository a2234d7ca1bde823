import Toolpath.Proofs.Session.Schedule

/-! How sessions fail that nobody cancels. -/

namespace Toolpath

def Budget.Calm (b : Budget) : Prop :=
  ∀ done token, token.cancelled = false → (b.meanwhile done token).cancelled = false

lemma Budget.calm_unlimited : unlimited.Calm := fun _ _ h => h

namespace Session

/-- A session that is not cancelled and that no report to come cancels. -/
structure Undisturbed (settings : Settings) (s : Session) : Prop where
  settings_eq : s.settings = settings
  running : s.isCancelled = false
  quiet : ∀ n, s.host.reports.length < n → s.host.cancelAt ≠ some n

def Explains (settings : Settings) (e : Fault) : Prop :=
  e = .emptyInput ∨ ∃ style, Machine.ofSettings settings style = .error e

variable {settings : Settings} {s : Session} {b : Budget}

namespace Undisturbed

lemma report (h : Undisturbed settings s) (fraction : Float32) (phase : Phase) :
    Undisturbed settings (s.report fraction phase) where
  settings_eq := h.settings_eq
  running := by
    have hnext : s.host.reports.length < (s.host.reports ++ [(⟨fraction, phase⟩ : Report)]).length := by
      simp
    rw [isCancelled, Session.report, Host.receive, if_neg (h.quiet _ hnext)]
    exact h.running
  quiet n hn := by
    refine h.quiet n (Nat.lt_trans ?_ hn)
    simp [Session.report, Host.receive]

lemma start (h : Undisturbed settings s) :
    Undisturbed settings s.start.1 ∧ ∀ e, s.start.2 = .error e → Explains settings e := by
  rw [Session.start]
  split
  · exact ⟨h, fun _ he => by cases he⟩
  · split
    · exact ⟨h, fun _ he => by cases he⟩
    · exact ⟨h, fun e he => Or.inl (Except.error.inj he).symm⟩
    · next head _ =>
      dsimp only
      split
      · next e hm =>
        rw [h.settings_eq] at hm
        refine ⟨⟨h.settings_eq, h.running, h.quiet⟩, fun e' he => Or.inr ⟨.detect head, ?_⟩⟩
        rw [hm, ← Except.error.inj he]
      · refine ⟨report ?_ _ _, fun _ he => by cases he⟩
        exact ⟨h.settings_eq, h.running, h.quiet⟩

lemma disturb (h : Undisturbed settings s) (hb : b.Calm) (done : Nat) :
    Undisturbed settings (s.disturb (b.meanwhile done)) :=
  ⟨h.settings_eq, hb done _ h.running, h.quiet⟩

lemma readLines (hb : b.Calm) (limit done : Nat) (h : Undisturbed settings s) :
    Undisturbed settings (Session.readLines b limit done s).1 ∧
      (Session.readLines b limit done s).2 = false := by
  induction limit generalizing done s with
  | zero => exact ⟨h, rfl⟩
  | succ limit ih =>
    have hd := h.disturb hb done
    rw [Session.readLines]
    dsimp only
    rw [if_neg (by simp [hd.running])]
    split
    · exact ⟨hd, rfl⟩
    · next line buffer _ =>
      have hnext : Undisturbed settings
          ({ s.disturb (b.meanwhile done) with buffer }.accept line) :=
        ⟨hd.settings_eq, hd.running, hd.quiet⟩
      split
      · exact ⟨hnext, rfl⟩
      · exact ih (done + 1) hnext

lemma conclude (h : Undisturbed settings s) :
    Undisturbed settings s.conclude.1 ∧ ∀ e, s.conclude.2 = .error e → Explains settings e := by
  rw [Session.conclude]
  split
  · refine ⟨report ?_ _ _, fun _ he => by cases he⟩
    exact ⟨h.settings_eq, h.running, h.quiet⟩
  · exact ⟨h, fun e he => Or.inl (Except.error.inj he).symm⟩

lemma resume (hb : b.Calm) (h : Undisturbed settings s) :
    Undisturbed settings (s.resume b).1 ∧
      ∀ e, (s.resume b).2 = .error e → Explains settings e := by
  obtain ⟨hr, hcancel⟩ := h.readLines hb (s.limit b) 0
  rw [Session.resume]
  split
  · next hs =>
    rw [hs] at hcancel
    cases hcancel
  · next s' hs =>
    rw [hs] at hr
    have hc : Undisturbed settings s'.compact := ⟨hr.settings_eq, hr.running, hr.quiet⟩
    dsimp only
    split
    · exact hc.conclude
    · exact ⟨hc.report _ _, fun _ he => by cases he⟩

lemma step (hb : b.Calm) (h : Undisturbed settings s) :
    Undisturbed settings (s.step b).1 ∧ ∀ e, (s.step b).2 = .error e → Explains settings e := by
  obtain ⟨hstart, hfail⟩ := h.start
  rw [Session.step]
  split
  · exact ⟨h, fun _ he => by cases he⟩
  · rw [if_neg (by simp [h.running])]
    split
    · next e hs =>
      rw [hs] at hstart hfail
      refine ⟨hstart, fun e' he => ?_⟩
      rw [← Except.error.inj he]
      exact hfail e rfl
    · next hs =>
      rw [hs] at hstart
      exact ⟨hstart, fun _ he => by cases he⟩
    · next hs =>
      rw [hs] at hstart
      exact hstart.resume hb

lemma drive (fuel : Nat) (h : Undisturbed settings s) {e : Fault}
    (he : (Session.drive .unlimited fuel s).2 = .error e) : Explains settings e := by
  induction fuel generalizing s with
  | zero => exact (h.step Budget.calm_unlimited).2 e he
  | succ fuel ih =>
    obtain ⟨hnext, hfail⟩ := h.step Budget.calm_unlimited
    rw [Session.drive] at he
    split at he
    · next hs =>
      rw [hs] at hnext
      exact ih hnext he
    · exact hfail e he

end Undisturbed

lemma step_eq_error {head : List Char} {e : Fault} (b : Budget) (hrun : s.run = none)
    (hcomplete : s.complete = false) (hcancel : s.isCancelled = false)
    (hhead : s.buffer.head = .text head)
    (hm : Machine.ofSettings s.settings (.detect head) = .error e) : (s.step b).2 = .error e := by
  have hstart : s.start.2 = .error e := by
    rw [Session.start, hrun, Option.isSome_none, if_neg Bool.false_ne_true, hhead]
    dsimp only
    rw [hm]
  rw [Session.step, hcomplete, hcancel, if_neg Bool.false_ne_true, if_neg Bool.false_ne_true,
    ← Prod.eta s.start, hstart]

end Session

namespace Interpretation

variable {settings : Settings} {text : List Char} {e : Fault}

lemma explains_of_ofText (h : ofText settings text = .error e) : Session.Explains settings e := by
  have hnew : Session.Undisturbed settings (({ settings } : Session).push text).finish :=
    ⟨rfl, rfl, fun _ _ => (Option.some_ne_none _).symm⟩
  rw [ofText] at h
  split at h
  · cases h
  · next hs =>
    obtain rfl := Except.error.inj h
    rw [Session.runToEnd] at hs
    exact hnew.drive _ (congrArg Prod.snd hs)

lemma ofText_of_step_eq_error
    (h : ((({ settings } : Session).push text).finish.step .unlimited).2 = .error e) :
    ofText settings text = .error e := by
  have hstop progress : ((({ settings } : Session).push text).finish.step .unlimited).2 ≠
      .ok (.pending progress) := by
    rw [h]
    exact fun he => by cases he
  rw [ofText, Session.runToEnd, Session.drive_eq_step hstop, ← Prod.eta (Session.step _ _), h]

lemma ofText_eq_error (hm : ∀ style, Machine.ofSettings settings style = .error e)
    (hb : ¬ Text.isBlankLine text) : ofText settings text = .error e :=
  ofText_of_step_eq_error
    (Session.step_eq_error _ rfl rfl rfl (LineBuffer.head_of_finished rfl hb) (hm _))

end Interpretation
end Toolpath
