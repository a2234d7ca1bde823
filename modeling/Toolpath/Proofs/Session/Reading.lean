import Mathlib.Data.List.Induction
import Toolpath.Proofs.Session.Rows
import Toolpath.Session.Basic

/-! Line by line interpretation, and the stages of a session that follows it. -/

namespace Toolpath

structure Reading where
  run : Run
  stamp : Stamp := ⟨0, 0⟩
  sawContent : Bool := false
  candidates : List (Nat × List Char) := []

namespace Reading

def read (q : Reading) (row : List Char) : Reading :=
  let line := Text.bare row
  let stamp : Stamp := ⟨q.stamp.line + 1, q.stamp.offset + Text.byteSize row⟩
  { run := q.run.feed line stamp
    stamp
    sawContent := q.sawContent || !Text.isBlankLine line
    candidates :=
      if Metadata.isCandidate line then q.candidates ++ [(stamp.line, line)] else q.candidates }

def ofRows (m : Machine) (rows : List (List Char)) : Reading :=
  rows.foldl read { run := { machine := m } }

def close (q : Reading) : Run :=
  q.run.setDiameters (Metadata.scan
    ((q.candidates.filter fun c => q.stamp.line - Metadata.window < c.1).map (·.2)))

variable {m : Machine} {rows : List (List Char)}

lemma ofRows_concat (m : Machine) (rows : List (List Char)) (row : List Char) :
    ofRows m (rows ++ [row]) = (ofRows m rows).read row := by
  rw [ofRows, List.foldl_append]
  rfl

lemma line_ofRows (m : Machine) (rows : List (List Char)) :
    (ofRows m rows).stamp.line = rows.length := by
  induction rows using List.reverseRecOn with
  | nil => rfl
  | append_singleton rows row ih =>
    rw [ofRows_concat, List.length_append, read, ih]
    rfl

lemma sawContent_ofRows (m : Machine) (rows : List (List Char)) :
    (ofRows m rows).sawContent = rows.any fun row => !Text.isBlankLine (Text.bare row) := by
  induction rows using List.reverseRecOn with
  | nil => rfl
  | append_singleton rows row ih => rw [ofRows_concat, List.any_append, read, ih]; simp

lemma not_isBlankLine {text : List Char} (h : (ofRows m (Text.rows text)).sawContent) :
    ¬ Text.isBlankLine text := by
  intro hb
  rw [sawContent_ofRows] at h
  obtain ⟨row, hr, hrow⟩ := List.any_eq_true.mp h
  rw [Text.isBlankLine_bare hb hr] at hrow
  cases hrow

end Reading

def SlicerStyle.ofProgram (text : List Char) : SlicerStyle := detect (LineBuffer.headOf text)

namespace Session

def reading (s : Session) (r : Run) : Reading := ⟨r, s.buffer.stamp, s.sawContent, s.candidates⟩

structure Waiting (settings : Settings) (text : List Char) (left : Option (List Char))
    (s : Session) : Prop where
  settings_eq : s.settings = settings
  run_eq : s.run = none
  incomplete : s.complete = false
  finished_eq : s.buffer.finished = left.isNone
  unread_eq : s.buffer.unread ++ left.getD [] = text
  fresh : ∀ r, s.reading r = { run := r }

structure Reads (m : Machine) (past : List (List Char)) (text : List Char)
    (left : Option (List Char)) (s : Session) : Prop where
  style_eq : s.style = .ofProgram text
  incomplete : s.complete = false
  finished_eq : s.buffer.finished = left.isNone
  rows_eq : Text.rows text = past ++ Text.rows (s.buffer.unread ++ left.getD [])
  reading_eq : s.run.map s.reading = some (.ofRows m past)

structure Ended (m : Machine) (text : List Char) (s : Session) : Prop where
  style_eq : s.style = .ofProgram text
  complete : s.complete = true
  line_eq : s.buffer.lineNumber = (Text.rows text).length
  content : (Reading.ofRows m (Text.rows text)).sawContent
  run_eq : s.run = some (Reading.ofRows m (Text.rows text)).close

inductive Follows (settings : Settings) (text : List Char) (left : Option (List Char))
    (s : Session) : Prop
  | waiting (h : Waiting settings text left s)
  | reads (m : Machine) (past : List (List Char))
      (hm : Machine.ofSettings settings (.ofProgram text) = .ok m) (h : Reads m past text left s)
  | ended (m : Machine) (hm : Machine.ofSettings settings (.ofProgram text) = .ok m)
      (h : Ended m text s)

variable {settings : Settings} {m : Machine} {past : List (List Char)} {text : List Char}
  {left : Option (List Char)} {s : Session}

lemma Follows.stage (h : Follows settings text left s)
    (hm : Machine.ofSettings settings (.ofProgram text) = .ok m) :
    Waiting settings text left s ∨ (∃ past, Reads m past text left s) ∨ Ended m text s := by
  cases h with
  | waiting h => exact Or.inl h
  | reads _ past hm' h =>
    obtain rfl := Except.ok.inj (hm'.symm.trans hm)
    exact Or.inr (Or.inl ⟨past, h⟩)
  | ended _ hm' h =>
    obtain rfl := Except.ok.inj (hm'.symm.trans hm)
    exact Or.inr (Or.inr h)

lemma Waiting.line_eq (h : Waiting settings text left s) (r : Run) : s.buffer.lineNumber = 0 :=
  congrArg (fun q => q.stamp.line) (h.fresh r)

lemma Reads.line_eq (h : Reads m past text left s) : s.buffer.lineNumber = past.length := by
  obtain ⟨r, _, hq⟩ := Option.map_eq_some_iff.mp h.reading_eq
  rw [← Reading.line_ofRows m, ← hq]
  rfl

lemma Reads.host (h : Reads m past text left s) (host : Host) :
    Reads m past text left { s with host } :=
  ⟨h.style_eq, h.incomplete, h.finished_eq, h.rows_eq, h.reading_eq⟩

lemma Reads.compact (h : Reads m past text left s) : Reads m past text left s.compact where
  style_eq := h.style_eq
  incomplete := h.incomplete
  finished_eq := h.finished_eq
  rows_eq := h.rows_eq
  reading_eq := by
    rw [← h.reading_eq]
    exact congrArg (fun stamp => s.run.map (Reading.mk · stamp _ _)) s.buffer.stamp_compact

lemma Follows.host (h : Follows settings text left s) (host : Host) :
    Follows settings text left { s with host } := by
  cases h with
  | waiting h =>
    exact .waiting ⟨h.settings_eq, h.run_eq, h.incomplete, h.finished_eq, h.unread_eq, h.fresh⟩
  | reads m past hm h => exact .reads m past hm (h.host host)
  | ended m hm h =>
    exact .ended m hm ⟨h.style_eq, h.complete, h.line_eq, h.content, h.run_eq⟩

lemma Follows.push {chunk rest : List Char} (h : Follows settings text (some (chunk ++ rest)) s) :
    Follows settings text (some rest) (s.push chunk) := by
  have hunread : s.buffer.unread ++ (chunk ++ rest) = s.buffer.unread ++ chunk ++ rest :=
    (List.append_assoc ..).symm
  cases h with
  | waiting h =>
    exact .waiting ⟨h.settings_eq, h.run_eq, h.incomplete, h.finished_eq,
      hunread.symm.trans h.unread_eq, h.fresh⟩
  | reads m past hm h =>
    refine .reads m past hm ⟨h.style_eq, h.incomplete, h.finished_eq, ?_, h.reading_eq⟩
    rw [h.rows_eq]
    exact congrArg (fun cs => past ++ Text.rows cs) hunread
  | ended m hm h =>
    exact .ended m hm ⟨h.style_eq, h.complete, h.line_eq, h.content, h.run_eq⟩

lemma Follows.finish (h : Follows settings text (some []) s) :
    Follows settings text none s.finish := by
  cases h with
  | waiting h =>
    exact .waiting ⟨h.settings_eq, h.run_eq, h.incomplete, rfl, h.unread_eq, h.fresh⟩
  | reads m past hm h =>
    exact .reads m past hm ⟨h.style_eq, h.incomplete, rfl, h.rows_eq, h.reading_eq⟩
  | ended m hm h =>
    exact .ended m hm ⟨h.style_eq, h.complete, h.line_eq, h.content, h.run_eq⟩

lemma getD_left {b : LineBuffer} (hf : b.finished = left.isNone) (h : b.finished) :
    left.getD [] = [] := by
  cases left with
  | none => rfl
  | some coming => rw [h] at hf; cases hf

lemma Waiting.start (h : Waiting settings text left s) :
    (Waiting settings text left s.start.1 ∧ s.start.2 ≠ .ok true) ∨
      ∃ m, Machine.ofSettings settings (.ofProgram text) = .ok m ∧
        Reads m [] text left s.start.1 ∧ s.start.2 = .ok true := by
  have hrun : s.run.isSome = false := by rw [h.run_eq]; rfl
  rw [Session.start, hrun, if_neg Bool.false_ne_true]
  cases hhead : s.buffer.head with
  | awaited => exact Or.inl ⟨h, nofun⟩
  | blank => exact Or.inl ⟨h, nofun⟩
  | text found =>
    have hstyle : SlicerStyle.detect found = .ofProgram text := by
      rw [LineBuffer.head_eq_text hhead (getD_left h.finished_eq), h.unread_eq]
      rfl
    dsimp only
    rw [hstyle, h.settings_eq]
    cases hm : Machine.ofSettings settings (.ofProgram text) with
    | error e =>
      exact Or.inl ⟨⟨rfl, h.run_eq, h.incomplete, h.finished_eq, h.unread_eq, h.fresh⟩, nofun⟩
    | ok m =>
      refine Or.inr ⟨m, rfl, ⟨rfl, h.incomplete, h.finished_eq, ?_, ?_⟩, rfl⟩
      · exact congrArg Text.rows h.unread_eq.symm
      · exact congrArg some (h.fresh _)

namespace Reads

lemma accept {line : List Char} {buffer : LineBuffer} (h : Reads m past text left s)
    (hn : s.buffer.next? = some (line, buffer)) :
    ∃ row, Reads m (past ++ [row]) text left ({ s with buffer }.accept line) := by
  obtain ⟨row, hrows, hline, hbuffer, _⟩ :=
    LineBuffer.next?_eq_some hn (getD_left h.finished_eq)
  refine ⟨row, h.style_eq, h.incomplete, ?_, ?_, ?_⟩
  · rw [← h.finished_eq, hbuffer]
    rfl
  · rw [h.rows_eq, hrows, List.append_assoc]
    rfl
  · obtain ⟨r, hr, hq⟩ := Option.map_eq_some_iff.mp h.reading_eq
    have hstamp := LineBuffer.stamp_skip s.buffer (Text.byteSize row) buffer.unread
    rw [← hbuffer] at hstamp
    rw [Reading.ofRows_concat, ← hq, Session.accept, hr]
    dsimp only [Option.map, Session.reading, Reading.read]
    rw [hstamp, hline]

lemma readLines (b : Budget) (limit done : Nat) (h : Reads m past text left s) :
    ∃ past', Reads m past' text left (Session.readLines b limit done s).1 := by
  -- every line that is read moves one row from the text ahead to the rows behind
  induction limit generalizing done s past with
  | zero => exact ⟨past, h⟩
  | succ limit ih =>
    have hd : Reads m past text left (s.disturb (b.meanwhile done)) := h.host _
    rw [Session.readLines]
    dsimp only
    split
    · exact ⟨past, hd⟩
    · split
      · exact ⟨past, hd⟩
      · next hn =>
        obtain ⟨row, hrow⟩ := hd.accept hn
        split
        · exact ⟨_, hrow⟩
        · exact ih _ hrow

lemma past_eq (h : Reads m past text left s) (hd : s.buffer.isDrained) : past = Text.rows text := by
  obtain ⟨hf, hu⟩ := Bool.and_eq_true_iff.mp hd
  rw [h.rows_eq, getD_left h.finished_eq hf, List.isEmpty_iff.mp hu]
  exact (List.append_nil past).symm

lemma conclude (h : Reads m past text left s) (hd : s.buffer.isDrained) :
    (Ended m text s.conclude.1 ∧ s.conclude.2 = .ok .complete) ∨
      (Reads m past text left s.conclude.1 ∧ s.conclude.2 = .error .emptyInput ∧
        (Reading.ofRows m (Text.rows text)).sawContent = false) := by
  obtain rfl := h.past_eq hd
  obtain ⟨r, hr, hq⟩ := Option.map_eq_some_iff.mp h.reading_eq
  rw [Session.conclude]
  split
  · next hs =>
    refine Or.inl ⟨⟨h.style_eq, rfl, ?_, ?_, ?_⟩, rfl⟩
    · rw [← Reading.line_ofRows m, ← hq]
      rfl
    · rw [← hq]
      exact hs
    · rw [← hq]
      exact congrArg (Option.map _) hr
  · next hs =>
    refine Or.inr ⟨h, rfl, ?_⟩
    rw [← hq]
    exact Bool.eq_false_iff.mpr hs

lemma resume (h : Reads m past text left s) (b : Budget) :
    (Ended m text (s.resume b).1 ∧ (s.resume b).2 = .ok .complete) ∨
      (∃ past', Reads m past' text left (s.resume b).1) ∧ (s.resume b).2 ≠ .ok .complete := by
  obtain ⟨past', hr⟩ := h.readLines b (s.limit b) 0
  rw [Session.resume]
  split
  · next s' hs =>
    rw [hs] at hr
    exact Or.inr ⟨⟨past', hr.compact⟩, nofun⟩
  · next s' hs =>
    rw [hs] at hr
    replace hr := hr.compact
    dsimp only
    split
    · next hd =>
      rcases hr.conclude hd with hend | ⟨hr, he, _⟩
      · exact Or.inl hend
      · exact Or.inr ⟨⟨past', hr⟩, by rw [he]; nofun⟩
    · exact Or.inr ⟨⟨past', hr.host _⟩, nofun⟩

end Reads

lemma Reads.start (h : Reads m past text left s) : s.start = (s, .ok true) := by
  obtain ⟨r, hr, _⟩ := Option.map_eq_some_iff.mp h.reading_eq
  rw [Session.start, if_pos (by rw [hr]; rfl)]

lemma Follows.start (h : Follows settings text left s) (hc : ¬ s.complete) :
    (Waiting settings text left s.start.1 ∧ s.start.2 ≠ .ok true) ∨
      ∃ m past, Machine.ofSettings settings (.ofProgram text) = .ok m ∧
        Reads m past text left s.start.1 ∧ s.start.2 = .ok true := by
  cases h with
  | waiting h =>
    rcases h.start with hw | ⟨m, hm, hr⟩
    · exact Or.inl hw
    · exact Or.inr ⟨m, [], hm, hr⟩
  | reads m past hm h =>
    rw [h.start]
    exact Or.inr ⟨m, past, hm, h, rfl⟩
  | ended m hm h => exact absurd h.complete hc

lemma Follows.step (h : Follows settings text left s) (b : Budget) :
    Follows settings text left (s.step b).1 ∧
      ((s.step b).2 = .ok .complete → (s.step b).1.complete) := by
  rw [Session.step]
  split
  · next hc => exact ⟨h, fun _ => hc⟩
  · next hc =>
    split
    · exact ⟨h, nofun⟩
    · obtain ⟨hw, hne⟩ | ⟨m, past, hm, hr, hok⟩ := h.start hc
      · split
        · next hs => rw [hs] at hw; exact ⟨.waiting hw, nofun⟩
        · next hs => rw [hs] at hw; exact ⟨.waiting hw, nofun⟩
        · next hs => rw [hs] at hne; exact absurd rfl hne
      · rw [← Prod.eta s.start, hok]
        obtain ⟨hend, _⟩ | ⟨⟨past', hr⟩, hne⟩ := hr.resume b
        · exact ⟨.ended m hm hend, fun _ => hend.complete⟩
        · exact ⟨.reads m past' hm hr, fun he => absurd he hne⟩

end Session
end Toolpath
