import Mathlib.Logic.Relation
import Toolpath.Proofs.Motion.Path
import Toolpath.Proofs.Session.Schedule

/-! The timeline of a program. Offsets count the bytes of the text up to the end of a line, in the
buffer as in all that is drawn, however the text arrives. -/

namespace Toolpath
namespace Text

def sizeUpTo (rows : List (List Char)) (n : Nat) : Nat := byteSize (rows.take n).flatten

variable {rows : List (List Char)}

lemma sizeUpTo_append (more : List (List Char)) {n : Nat} (h : n ≤ rows.length) :
    sizeUpTo (rows ++ more) n = sizeUpTo rows n := by
  rw [sizeUpTo, List.take_append_of_le_length h]
  rfl

lemma sizeUpTo_length (rows : List (List Char)) :
    sizeUpTo rows rows.length = byteSize rows.flatten := by
  rw [sizeUpTo, List.take_length]

lemma sizeUpTo_lt (hne : ∀ row ∈ rows, row ≠ []) {n k : Nat} (h : n < k) (hk : k ≤ rows.length) :
    sizeUpTo rows n < sizeUpTo rows k := by
  induction k with
  | zero => cases h
  | succ k ih =>
    have hstep : sizeUpTo rows k < sizeUpTo rows (k + 1) := by
      rw [sizeUpTo, sizeUpTo, List.take_succ_eq_append_getElem hk, List.flatten_append,
        byteSize_append, List.flatten_singleton]
      exact Nat.lt_add_of_pos_right (byteSize_pos (hne _ (List.getElem_mem hk)))
    rcases Nat.lt_succ_iff_lt_or_eq.mp h with h | rfl
    · exact Nat.lt_trans (ih h (Nat.le_of_succ_le hk)) hstep
    · exact hstep

lemma sizeUpTo_le (rows : List (List Char)) (n : Nat) : sizeUpTo rows n ≤ byteSize rows.flatten := by
  rw [sizeUpTo]
  conv_rhs => rw [← List.take_append_drop n rows, List.flatten_append, byteSize_append]
  exact Nat.le_add_right ..

end Text

namespace Stamp

def behind (rows : List (List Char)) : Stamp := ⟨rows.length, Text.byteSize rows.flatten⟩

structure OnRow (rows : List (List Char)) (t : Stamp) : Prop where
  line_pos : 0 < t.line
  line_le : t.line ≤ rows.length
  offset_eq : t.offset = Text.sizeUpTo rows t.line

variable {rows : List (List Char)} {t u : Stamp}

lemma behind_concat (rows : List (List Char)) (row : List Char) :
    behind (rows ++ [row]) = ⟨(behind rows).line + 1, (behind rows).offset + Text.byteSize row⟩ := by
  rw [behind, List.length_append, List.flatten_append, List.flatten_singleton, Text.byteSize_append]
  rfl

lemma onRow_behind (rows : List (List Char)) (row : List Char) :
    (behind (rows ++ [row])).OnRow (rows ++ [row]) where
  line_pos := by
    rw [behind_concat]
    exact Nat.succ_pos _
  line_le := Nat.le_refl _
  offset_eq := (Text.sizeUpTo_length _).symm

namespace OnRow

lemma append (h : t.OnRow rows) (more : List (List Char)) : t.OnRow (rows ++ more) where
  line_pos := h.line_pos
  line_le := by
    rw [List.length_append]
    exact Nat.le_add_right_of_le h.line_le
  offset_eq := by rw [Text.sizeUpTo_append more h.line_le, h.offset_eq]

lemma of_take {n : Nat} (h : t.OnRow (rows.take n)) : t.OnRow rows ∧ t.line ≤ n := by
  have hrows := h.append (rows.drop n)
  rw [List.take_append_drop] at hrows
  exact ⟨hrows, Nat.le_trans h.line_le (List.length_take_le n rows)⟩

lemma offset_le (h : t.OnRow rows) : t.offset ≤ (behind rows).offset := by
  rw [h.offset_eq]
  exact Text.sizeUpTo_le rows t.line

lemma offset_eq_iff (ht : t.OnRow rows) (hu : u.OnRow rows) (hne : ∀ row ∈ rows, row ≠ []) :
    t.offset = u.offset ↔ t.line = u.line := by
  rw [ht.offset_eq, hu.offset_eq]
  constructor
  · intro h
    rcases Nat.lt_trichotomy t.line u.line with hlt | heq | hlt
    · exact absurd h (Nat.ne_of_lt (Text.sizeUpTo_lt hne hlt hu.line_le))
    · exact heq
    · exact absurd h.symm (Nat.ne_of_lt (Text.sizeUpTo_lt hne hlt ht.line_le))
  · intro h
    rw [h]

end OnRow
end Stamp

/-! What rows draw. -/

structure Store.Dated (rows : List (List Char)) (st : Store) : Prop where
  segments : ∀ s ∈ st.segments, s.stamp.OnRow rows
  layers : ∀ l ∈ st.layers, l.stamp.OnRow rows
  orderly : st.Orderly

lemma Store.dated_empty (rows : List (List Char)) : ({} : Store).Dated rows :=
  ⟨fun _ hs => absurd hs (Array.not_mem_empty _), fun _ hl => absurd hl (Array.not_mem_empty _),
    .empty⟩

lemma Store.Dated.draw {rows : List (List Char)} {st : Store} {d : Drawing} (h : st.Dated rows)
    (row : List Char) (hd : ∀ s ∈ d.segments, s.stamp = .behind (rows ++ [row])) :
    (st.draw (.behind (rows ++ [row])) d).Dated (rows ++ [row]) where
  segments s hs := by
    rw [← Array.mem_toList_iff, toList_segments_draw, List.mem_append] at hs
    rcases hs with hs | hs
    · exact (h.segments s (Array.mem_toList_iff.mp hs)).append [row]
    · rw [hd s hs]
      exact Stamp.onRow_behind rows row
  layers l hl := by
    obtain ⟨layers, hnew, hlayers⟩ := st.exists_layers_draw (.behind (rows ++ [row])) d
    rw [← Array.mem_toList_iff, hlayers, List.mem_append] at hl
    rcases hl with hl | hl
    · exact (h.layers l (Array.mem_toList_iff.mp hl)).append [row]
    · rw [hnew l hl]
      exact Stamp.onRow_behind rows row
  orderly := by
    refine h.orderly.draw (fun s hs => ?_) hd
    refine Nat.le_trans (h.segments s hs).offset_le ?_
    rw [Stamp.behind_concat]
    exact Nat.le_add_right ..

namespace Reading

lemma stamp_ofRows (m : Machine) (rows : List (List Char)) :
    (ofRows m rows).stamp = .behind rows := by
  induction rows using List.reverseRecOn with
  | nil => rfl
  | append_singleton rows row ih => rw [ofRows_concat, read, ih, Stamp.behind_concat]

lemma dated_ofRows (m : Machine) (rows : List (List Char)) :
    (ofRows m rows).run.store.Dated rows := by
  induction rows using List.reverseRecOn with
  | nil => exact Store.dated_empty []
  | append_singleton rows row ih =>
    rw [ofRows_concat, read, stamp_ofRows, ← Stamp.behind_concat]
    dsimp only
    rw [Run.store_feed]
    exact ih.draw row fun _ hs => Machine.stamp_eq_of_mem hs

end Reading

/-! What the buffer holds back. -/

namespace LineBuffer

/-- The rows that have left a buffer, and what it still has of the text. -/
structure Cuts (text : List Char) (left : Option (List Char)) (past : List (List Char))
    (b : LineBuffer) : Prop where
  finished_eq : b.finished = left.isNone
  rows_eq : Text.rows text = past ++ Text.rows (b.unread ++ left.getD [])
  stamp_eq : b.stamp = .behind past

def Leads : LineBuffer → LineBuffer → Prop :=
  Relation.ReflTransGen fun b b' => ∃ line, b.next? = some (line, b')

namespace Cuts

variable {text : List Char} {left : Option (List Char)} {past : List (List Char)} {b b' : LineBuffer}

lemma next? {line : List Char} (h : Cuts text left past b) (hn : b.next? = some (line, b')) :
    ∃ row, Cuts text left (past ++ [row]) b' := by
  obtain ⟨row, hrows, -, hb, -⟩ := next?_eq_some hn (Session.getD_left h.finished_eq)
  refine ⟨row, ?_, ?_, ?_⟩
  · rw [← h.finished_eq, hb]
    rfl
  · rw [h.rows_eq, hrows, List.append_assoc]
    rfl
  · rw [Stamp.behind_concat, ← h.stamp_eq, hb, stamp_skip]

lemma leads (h : Cuts text left past b) (hl : b.Leads b') : ∃ past', Cuts text left past' b' := by
  induction hl with
  | refl => exact ⟨past, h⟩
  | tail _ hn ih =>
    obtain ⟨past', h⟩ := ih
    obtain ⟨line, hn⟩ := hn
    obtain ⟨row, h⟩ := h.next? hn
    exact ⟨past' ++ [row], h⟩

lemma compact (h : Cuts text left past b) : Cuts text left past b.compact :=
  ⟨h.finished_eq, h.rows_eq, b.stamp_compact.trans h.stamp_eq⟩

lemma push {chunk rest : List Char} (h : Cuts text (some (chunk ++ rest)) past b) :
    Cuts text (some rest) past (b.push chunk) where
  finished_eq := h.finished_eq
  rows_eq := by
    rw [h.rows_eq]
    exact congrArg (fun cs => past ++ Text.rows cs) (List.append_assoc ..).symm
  stamp_eq := h.stamp_eq

lemma finish (h : Cuts text (some []) past b) : Cuts text none past b.finish :=
  ⟨rfl, h.rows_eq, h.stamp_eq⟩

lemma text_eq (h : Cuts text left past b) : text = past.flatten ++ b.unread ++ left.getD [] := by
  have hflat := congrArg List.flatten h.rows_eq
  rwa [List.flatten_append, Text.flatten_rows, Text.flatten_rows, ← List.append_assoc] at hflat

end Cuts
end LineBuffer

namespace Session

variable {text : List Char} {left : Option (List Char)} {past : List (List Char)} {s : Session}

lemma leads_readLines (b : Budget) (limit done : Nat) (s : Session) :
    s.buffer.Leads (readLines b limit done s).1.buffer := by
  induction limit generalizing done s with
  | zero => exact .refl
  | succ limit ih =>
    rw [readLines]
    dsimp only
    split
    · exact .refl
    · split
      · exact .refl
      · next line buffer hn =>
        have hnext : s.buffer.Leads buffer := .single ⟨line, hn⟩
        split
        · exact hnext
        · have hrest := ih (done + 1) ({ s.disturb (b.meanwhile done) with buffer }.accept line)
          exact hnext.trans hrest

lemma buffer_start (s : Session) : s.start.1.buffer = s.buffer := by
  rw [start]
  split
  · rfl
  · split
    · rfl
    · rfl
    · dsimp only
      split <;> rfl

lemma buffer_conclude (s : Session) : s.conclude.1.buffer = s.buffer := by
  rw [conclude]
  split <;> rfl

lemma buffer_resume (s : Session) (b : Budget) :
    (s.resume b).1.buffer = (readLines b (s.limit b) 0 s).1.buffer.compact := by
  rw [resume]
  split
  · next hs => rw [hs]; rfl
  · next hs =>
    rw [hs]
    dsimp only
    split
    · exact buffer_conclude _
    · rfl

lemma cuts_step (h : s.buffer.Cuts text left past) (b : Budget) :
    ∃ past', (s.step b).1.buffer.Cuts text left past' := by
  rw [← s.buffer_start] at h
  rw [step]
  split
  · exact ⟨past, s.buffer_start ▸ h⟩
  · split
    · exact ⟨past, s.buffer_start ▸ h⟩
    · split
      · next he =>
        rw [he] at h
        exact ⟨past, h⟩
      · next he =>
        rw [he] at h
        exact ⟨past, h⟩
      · next s' he =>
        rw [he] at h
        obtain ⟨past', h⟩ := h.leads (leads_readLines b (s'.limit b) 0 s')
        rw [buffer_resume]
        exact ⟨past', h.compact⟩

def Event.delivered : Event → List Char
  | .push chunk => chunk
  | _ => []

lemma cuts_afterAll {events : List Event} (h : s.buffer.Cuts text left past)
    (hs : Schedule left events) :
    ∃ left' past', (s.afterAll events).buffer.Cuts text left' past' ∧
      left.getD [] = events.flatMap Event.delivered ++ left'.getD [] := by
  induction hs generalizing s past with
  | nil left => exact ⟨left, past, h, rfl⟩
  | push chunk _ ih =>
    obtain ⟨left', past', h, hrest⟩ := ih (s := s.push chunk) h.push
    refine ⟨left', past', h, ?_⟩
    rw [List.flatMap_cons, List.append_assoc, ← hrest]
    rfl
  | finish _ ih => exact ih (s := s.finish) h.finish
  | step b _ ih =>
    obtain ⟨past', h⟩ := cuts_step h b
    exact ih h
  | cancel _ ih => exact ih h
  | reset _ ih => exact ih h

lemma Follows.dated {settings : Settings} (h : Follows settings text left s) :
    s.store.Dated ((Text.rows text).take s.buffer.lineNumber) := by
  cases h with
  | waiting h =>
    rw [store, h.run_eq]
    exact Store.dated_empty _
  | reads m past hm h =>
    obtain ⟨r, hr, hq⟩ := Option.map_eq_some_iff.mp h.reading_eq
    rw [h.line_eq, h.rows_eq, List.take_left, store, hr]
    have hd := Reading.dated_ofRows m past
    rw [← hq] at hd
    exact hd
  | ended m hm h =>
    rw [h.line_eq, List.take_length, store, h.run_eq]
    exact Reading.dated_ofRows m (Text.rows text)

structure Timeline (rows : List (List Char)) (received : List Char) (s : Session) : Prop where
  line_le : s.buffer.lineNumber ≤ rows.length
  consumed_eq : s.buffer.consumed = Text.sizeUpTo rows s.buffer.lineNumber
  received_eq : received = (rows.take s.buffer.lineNumber).flatten ++ s.buffer.unread
  segments : ∀ g ∈ s.store.segments, g.stamp.OnRow rows ∧ g.stamp.line ≤ s.buffer.lineNumber
  layers : ∀ l ∈ s.store.layers, l.stamp.OnRow rows ∧ l.stamp.line ≤ s.buffer.lineNumber
  inOrder : InOrder Segment.offset s.store.segments.toList
  offset_eq_iff : ∀ g ∈ s.store.segments, ∀ g' ∈ s.store.segments,
    g.offset = g'.offset ↔ g.stamp.line = g'.stamp.line
  orderly : s.store.Orderly

theorem afterAll_timeline (settings : Settings) (host : Host) (expected : Option Nat)
    {text : List Char} {events : List Event} (h : Schedule (some text) events) :
    (({ settings, host, expected } : Session).afterAll events).Timeline (Text.rows text)
      (events.flatMap Event.delivered) := by
  have hstart : LineBuffer.Cuts text (some text) [] {} := ⟨rfl, rfl, rfl⟩
  obtain ⟨left, past, hc, hdelivered⟩ :=
    cuts_afterAll (s := { settings, host, expected }) hstart h
  obtain ⟨_, hf⟩ := (follows_new settings host expected text).afterAll h
  have hd := hf.dated
  generalize ({ settings, host, expected } : Session).afterAll events = s at hc hd ⊢
  have hline : s.buffer.lineNumber = past.length := congrArg Stamp.line hc.stamp_eq
  have hpast : (Text.rows text).take s.buffer.lineNumber = past := by
    rw [hline, hc.rows_eq, List.take_left]
  have hsegments g (hg : g ∈ s.store.segments) := (hd.segments g hg).of_take
  exact {
    line_le := by
      rw [hline, hc.rows_eq, List.length_append]
      exact Nat.le_add_right ..
    consumed_eq := by
      rw [Text.sizeUpTo, hpast]
      exact congrArg Stamp.offset hc.stamp_eq
    received_eq := by
      have htext := hc.text_eq
      rw [hpast]
      exact List.append_cancel_right (hdelivered.symm.trans htext)
    segments := hsegments
    layers l hl := (hd.layers l hl).of_take
    inOrder := hd.orderly.inOrder
    offset_eq_iff g hg g' hg' := (hsegments g hg).1.offset_eq_iff (hsegments g' hg').1 fun _ =>
      Text.ne_nil_of_mem_rows
    orderly := hd.orderly }

theorem afterAll_timeline_two_chunks :
    let text := "G1 X1 E1 ;\u00e9\n\nG1 X".toList ++ ("2 E1\nG1 X9".toList ++ [])
    let events : List Event := [.push "G1 X1 E1 ;\u00e9\n\nG1 X".toList, .step {},
      .push "2 E1\nG1 X9".toList, .finish, .step { lines := some 1 }, .cancel, .step {}, .reset,
      .step { lines := some 2 }]
    let s := ({ settings := {} } : Session).afterAll events
    Schedule (some text) events ∧ s.buffer.lineNumber = 3 ∧ s.buffer.consumed = 23 ∧
      s.buffer.unread = "G1 X9".toList ∧ s.store.segments.toList.map Segment.offset = [13, 23] ∧
      s.Timeline (Text.rows text) (events.flatMap Event.delivered) := by
  intro text events s
  have h : Schedule (some text) events :=
    .push _ (.step _ (.push _ (.finish (.step _ (.cancel (.step _ (.reset (.step _
      (.nil none)))))))))
  have hline : s.buffer.lineNumber = 3 := by decide +kernel
  have hconsumed : s.buffer.consumed = 23 := by decide +kernel
  have hunread : s.buffer.unread = "G1 X9".toList := by decide +kernel
  have hoffsets : s.store.segments.toList.map Segment.offset = [13, 23] := by decide +kernel
  exact ⟨h, hline, hconsumed, hunread, hoffsets, afterAll_timeline {} {} none h⟩

end Session
end Toolpath
