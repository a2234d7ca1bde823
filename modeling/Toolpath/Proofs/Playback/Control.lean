import Mathlib.Data.List.Induction
import Mathlib.Tactic.Lemma
import Toolpath.Playback.Batched

/-! Runs of players: what a host may ask of them, in any order, and what they answer. -/

namespace Toolpath

inductive Control
  | advance (offset : Nat)
  | tick
  | forceRedraw
  deriving DecidableEq, Repr

inductive Reply
  | advanced (kind : AdvanceKind)
  | ticked (count : Nat)
  | noted
  deriving DecidableEq, Repr

namespace Control

def offset? : Control → Option Nat
  | advance x => some x
  | tick | forceRedraw => none

def lastOffset? (cs : List Control) : Option Nat := (cs.filterMap offset?).getLast?

lemma lastOffset?_concat (cs : List Control) (c : Control) :
    lastOffset? (cs ++ [c]) = c.offset?.or (lastOffset? cs) := by
  cases c <;> simp [lastOffset?, offset?]

end Control

namespace Playback

def handle (p : Playback) : Control → Playback × Reply
  | .advance x => ((p.advance x).1, .advanced (p.advance x).2)
  | .tick => (p.tick.1, .ticked p.tick.2)
  | .forceRedraw => (p.forceRedraw, .noted)

def run (p : Playback) (cs : List Control) : Playback := cs.foldl (fun p c => (p.handle c).1) p

lemma run_concat (p : Playback) (cs : List Control) (c : Control) :
    p.run (cs ++ [c]) = ((p.run cs).handle c).1 := by
  simp [run]

lemma run_append (p : Playback) (cs ds : List Control) : p.run (cs ++ ds) = (p.run cs).run ds := by
  rw [run, List.foldl_append]
  rfl

lemma run_induction {P : Playback → Prop} {p : Playback} (h : P p)
    (hs : ∀ q c, P q → P (q.handle c).1) (cs : List Control) : P (p.run cs) := by
  induction cs using List.reverseRecOn with
  | nil => exact h
  | append_singleton cs c ih =>
    rw [run_concat]
    exact hs _ c ih

lemma advance_eq (p : Playback) (x : Nat) :
    p.advance x = (match p.cursor.kind p.look.playing.scrubDistance x with
      | .fullPass => p.fullPass x
      | .incremental => p.incremental x, p.cursor.kind p.look.playing.scrubDistance x) := by
  rw [advance]
  cases p.cursor.kind p.look.playing.scrubDistance x <;> rfl

lemma advance_cases (p : Playback) (x : Nat) :
    (p.advance x).1 = p.fullPass x ∨ (p.advance x).1 = p.incremental x := by
  rw [advance_eq]
  cases p.cursor.kind p.look.playing.scrubDistance x
  · exact Or.inr rfl
  · exact Or.inl rfl

@[simp] lemma handle_look (p : Playback) (c : Control) : (p.handle c).1.look = p.look := by
  cases c with
  | advance x => rcases p.advance_cases x with h | h <;> simp [handle, h, fullPass, incremental]
  | tick => rfl
  | forceRedraw => rfl

@[simp] lemma handle_clips (p : Playback) (c : Control) : (p.handle c).1.clips = p.clips := by
  cases c with
  | advance x => rcases p.advance_cases x with h | h <;> simp [handle, h, fullPass, incremental]
  | tick => rfl
  | forceRedraw => rfl

lemma handle_offset (p : Playback) (c : Control) :
    (p.handle c).1.cursor.offset = c.offset?.or p.cursor.offset := by
  cases c with
  | advance x =>
    rcases p.advance_cases x with h | h <;>
      simp [handle, h, fullPass, incremental, Cursor.moveTo, Control.offset?]
  | tick => rfl
  | forceRedraw => rfl

@[simp] lemma run_look (p : Playback) (cs : List Control) : (p.run cs).look = p.look :=
  run_induction (P := fun q => q.look = p.look) rfl (fun q c h => (q.handle_look c).trans h) cs

@[simp] lemma run_clips (p : Playback) (cs : List Control) : (p.run cs).clips = p.clips :=
  run_induction (P := fun q => q.clips = p.clips) rfl (fun q c h => (q.handle_clips c).trans h) cs

lemma run_offset (p : Playback) (cs : List Control) :
    (p.run cs).cursor.offset = (Control.lastOffset? cs).or p.cursor.offset := by
  induction cs using List.reverseRecOn with
  | nil => rfl
  | append_singleton cs c ih =>
    rw [run_concat, handle_offset, ih, Control.lastOffset?_concat, Option.or_assoc]

end Playback

namespace BatchedPlayback

def handle (p : BatchedPlayback) : Control → BatchedPlayback × Reply
  | .advance x => ((p.advance x).1, .advanced (p.advance x).2)
  | .tick => (p.tick.1, .ticked p.tick.2)
  | .forceRedraw => (p.forceRedraw, .noted)

def run (p : BatchedPlayback) (cs : List Control) : BatchedPlayback :=
  cs.foldl (fun p c => (p.handle c).1) p

lemma run_concat (p : BatchedPlayback) (cs : List Control) (c : Control) :
    p.run (cs ++ [c]) = ((p.run cs).handle c).1 := by
  simp [run]

lemma advance_fst (p : BatchedPlayback) (x : Nat) :
    (p.advance x).1 = { p with batches := p.batches.map fun b => (b.advance x).1 } := by
  rw [advance]
  dsimp only
  rw [Array.map_map]
  rfl

lemma tick_fst (p : BatchedPlayback) :
    p.tick.1 = { p with batches := p.batches.map fun b => b.tick.1 } := by
  rw [tick]
  dsimp only
  rw [Array.map_map]
  rfl

lemma advance_snd (p : BatchedPlayback) (x : Nat) :
    (p.advance x).2 =
      if p.batches.any fun b => (b.advance x).2 == .fullPass then .fullPass else .incremental := by
  rw [advance]
  dsimp only
  rw [Array.any_map]
  rfl

lemma advance_snd_eq {p : BatchedPlayback} {b : Playback} (hb : b ∈ p.batches) {x : Nat}
    {kind : AdvanceKind} (h : ∀ b ∈ p.batches, (b.advance x).2 = kind) :
    (p.advance x).2 = kind := by
  rw [advance_snd]
  cases kind with
  | fullPass =>
    rw [if_pos]
    exact Array.any_eq_true'.mpr ⟨b, hb, by rw [h b hb]; rfl⟩
  | incremental =>
    rw [if_neg]
    rw [Bool.not_eq_true, Array.any_eq_false']
    intro c hc
    rw [h c hc]
    decide

lemma handle_fst (p : BatchedPlayback) (c : Control) :
    (p.handle c).1 = { p with batches := p.batches.map fun b => (b.handle c).1 } := by
  cases c with
  | advance x => exact p.advance_fst x
  | tick => exact p.tick_fst
  | forceRedraw => rfl

lemma run_eq (p : BatchedPlayback) (cs : List Control) :
    p.run cs = { p with batches := p.batches.map (·.run cs) } := by
  induction cs using List.reverseRecOn with
  | nil =>
    have hid : (fun b : Playback => b.run []) = id := rfl
    rw [hid, Array.map_id]
    rfl
  | append_singleton cs c ih =>
    have hlast : (fun b : Playback => b.run (cs ++ [c])) = fun b => ((b.run cs).handle c).1 := by
      funext b
      exact b.run_concat cs c
    rw [run_concat, ih, handle_fst, hlast]
    dsimp only
    rw [Array.map_map]
    rfl

end BatchedPlayback
end Toolpath
