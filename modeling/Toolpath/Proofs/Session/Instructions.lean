import Toolpath.Proofs.Motion.Annotations
import Toolpath.Proofs.Session.Lines
import Toolpath.Proofs.Token.Comment

/-! Where the instructions of a program begin and end. Every line counts that is neither blank nor a
comment as a whole, although other lines too can be without words. -/

namespace Toolpath

namespace Text

variable {cs : List Char}

lemma mem_of_mem_trim {c : Char} (h : c ∈ trim cs) : c ∈ cs :=
  (List.dropWhile_suffix isBlank).subset ((prefix_trimEnd (trimStart cs)).subset h)

lemma trimStart_trim (cs : List Char) : trimStart (trim cs) = trim cs := by
  cases h : trim cs with
  | nil => rfl
  | cons c rest =>
    have hhead : (trim cs).head? = some c := by rw [h]; rfl
    have hblank := List.head?_dropWhile_not isBlank cs
    have hstart : (cs.dropWhile isBlank).head? = some c := head?_trimStart_of_trim hhead
    rw [hstart] at hblank
    exact List.dropWhile_cons_of_neg (by simpa using hblank)

end Text

namespace Machine

variable {m : Machine} {line : List Char} {stamp : Stamp} {g : Segment}

def isNoted (line : List Char) : Bool :=
  !(Text.trim line).isEmpty && !isCommentLine (Text.trim line)

def isWorded (line : List Char) : Bool := !(instruction line).isEmpty

lemma isNoted_of_isWorded (hline : '\n' ∉ line) (h : isWorded line) : isNoted line := by
  have hempty : (Instruction.tokenize []).isEmpty := by decide
  rw [isWorded, instruction, Bool.not_eq_true'] at h
  rw [isNoted, Bool.and_eq_true, Bool.not_eq_true', Bool.not_eq_true']
  refine ⟨Bool.eq_false_iff.mpr fun hblank => ?_, Bool.eq_false_iff.mpr fun hcomment => ?_⟩
  · rw [List.isEmpty_iff.mp hblank] at h
    exact absurd hempty (Bool.eq_false_iff.mp h)
  · rw [isCommentLine, Text.trimStart_trim, decide_eq_true_iff] at hcomment
    obtain ⟨rest, hrest⟩ := List.head?_eq_some_iff.mp hcomment
    have hnewline : '\n' ∉ rest := fun hmem =>
      hline (Text.mem_of_mem_trim (hrest ▸ List.mem_cons_of_mem _ hmem))
    rw [hrest, stripComments_trailing hnewline] at h
    exact absurd hempty (Bool.eq_false_iff.mp h)

lemma isInstruction_interpret (m : Machine) (line : List Char) (stamp : Stamp) :
    (m.interpret line stamp).2.isInstruction = isNoted line := by
  rw [interpret, isNoted]
  dsimp only
  split
  · next h => rw [h]; rfl
  · next h =>
    rw [Bool.eq_false_iff.mpr h]
    split
    · next hcomment => rw [hcomment]; rfl
    · next hcomment =>
      rw [Bool.eq_false_iff.mpr hcomment]
      split <;> rfl

lemma Interpreted.isWorded_of_mem {r : Machine × Drawing} (h : Interpreted m line stamp r)
    (hg : g ∈ r.2.segments) : isWorded line := by
  cases h with
  | blank _ => cases hg
  | comment _ => cases hg
  | wordless _ => cases hg
  | words hwords _ => exact congrArg not (Bool.eq_false_iff.mpr hwords)

end Machine

namespace Store

lemma instructions_foldl_apply (st : Store) (stamp : Stamp) (es : List Emission) :
    (es.foldl (apply stamp) st).firstInstruction = st.firstInstruction ∧
      (es.foldl (apply stamp) st).lastInstruction = st.lastInstruction := by
  induction es generalizing st with
  | nil => exact ⟨rfl, rfl⟩
  | cons e es ih =>
    have hrest := ih (apply stamp st e)
    cases e with
    | layer height => exact hrest
    | segment g => exact hrest

lemma instructions_draw (st : Store) (stamp : Stamp) (d : Drawing) :
    (st.draw stamp d).firstInstruction =
        st.firstInstruction.or (if d.isInstruction then some stamp.offset else none) ∧
      (st.draw stamp d).lastInstruction =
        (if d.isInstruction then some stamp.offset else none).or st.lastInstruction := by
  rw [draw]
  obtain ⟨hfirst, hlast⟩ := instructions_foldl_apply
    (if d.isInstruction then st.noteInstruction stamp.offset else st) stamp d.emissions
  rw [hfirst, hlast]
  split
  · refine ⟨?_, rfl⟩
    rw [noteInstruction]
    cases st.firstInstruction <;> rfl
  · exact ⟨(Option.or_none ..).symm, rfl⟩

end Store

namespace Run

variable {r : Run} {lines : List (List Char × Stamp)} {p q : List Char → Bool}

def offsetsWhere (p : List Char → Bool) (lines : List (List Char × Stamp)) : List Nat :=
  (lines.filter (p ·.1)).map (·.2.offset)

lemma offsetsWhere_concat (p : List Char → Bool) (lines : List (List Char × Stamp))
    (line : List Char × Stamp) :
    offsetsWhere p (lines ++ [line]) =
      offsetsWhere p lines ++ (if p line.1 then some line.2.offset else none).toList := by
  rw [offsetsWhere, List.filter_append, List.map_append, List.filter_singleton, offsetsWhere]
  cases p line.1 <;> rfl

lemma offsetsWhere_sublist (h : ∀ line ∈ lines, p line.1 → q line.1) :
    (offsetsWhere p lines).Sublist (offsetsWhere q lines) := by
  have hfilter : lines.filter (p ·.1) = (lines.filter (q ·.1)).filter (p ·.1) := by
    rw [List.filter_filter]
    refine List.filter_congr fun line hline => ?_
    cases hp : p line.1 with
    | false => rfl
    | true => rw [h line hline hp]; rfl
  rw [offsetsWhere, hfilter]
  exact (List.filter_sublist ..).map _

lemma pairwise_offsetsWhere
    (h : lines.Pairwise fun line line' => line.2.offset < line'.2.offset) :
    (offsetsWhere p lines).Pairwise (· < ·) :=
  List.pairwise_map.mpr (h.sublist List.filter_sublist)

lemma instructions_feedAll (hr : r.store = {}) (lines : List (List Char × Stamp)) :
    (r.feedAll lines).store.firstInstruction = (offsetsWhere Machine.isNoted lines).head? ∧
      (r.feedAll lines).store.lastInstruction = (offsetsWhere Machine.isNoted lines).getLast? := by
  induction lines using List.reverseRecOn with
  | nil => exact ⟨congrArg Store.firstInstruction hr, congrArg Store.lastInstruction hr⟩
  | append_singleton lines line ih =>
    obtain ⟨hfirst, hlast⟩ := (r.feedAll lines).store.instructions_draw line.2
      ((r.feedAll lines).machine.interpret line.1 line.2).2
    rw [Machine.isInstruction_interpret] at hfirst hlast
    rw [feedAll_concat, store_feed, hfirst, hlast, ih.1, ih.2, offsetsWhere_concat, List.head?_append,
      List.getLast?_append]
    split <;> exact ⟨rfl, rfl⟩

end Run

def Text.offsetsWhere (p : List Char → Bool) (text : List Char) : List Nat :=
  Run.offsetsWhere p (stamped (rows text))

lemma exists_ends_of_mem {l : List Nat} (h : l.Pairwise (· < ·)) {o : Nat} (ho : o ∈ l) :
    ∃ first last, l.head? = some first ∧ l.getLast? = some last ∧ first ≤ o ∧ o ≤ last := by
  have hne := List.ne_nil_of_mem ho
  have hle : l.Pairwise (· ≤ ·) := h.imp Nat.le_of_lt
  refine ⟨l.head hne, l.getLast hne, List.head?_eq_some_head hne, List.getLast?_eq_some_getLast hne, ?_, ?_⟩
  · exact hle.rel_head ho
  · exact hle.rel_getLast ho

namespace Interpretation

theorem ofText_instructions {settings : Settings} {text : List Char} {i : Interpretation}
    (h : ofText settings text = .ok i) :
    let noted := Text.offsetsWhere Machine.isNoted text
    let worded := Text.offsetsWhere Machine.isWorded text
    i.store.firstInstruction = noted.head? ∧ i.store.lastInstruction = noted.getLast? ∧
      worded.Sublist noted ∧
      ((∀ row ∈ Text.rows text, Machine.isNoted (Text.bare row) → Machine.isWorded (Text.bare row)) →
        noted = worded) ∧
      ∀ g ∈ i.store.segments, g.offset ∈ worded ∧
        ∃ first last, i.store.firstInstruction = some first ∧ i.store.lastInstruction = some last ∧
          first ≤ g.offset ∧ g.offset ≤ last := by
  intro noted worded
  obtain ⟨m, -, hstore⟩ := exists_run_of_ofText h
  have hsub : worded.Sublist noted := Run.offsetsWhere_sublist fun line hline hworded => by
    obtain ⟨⟨row, hrow, heq⟩, -⟩ := Text.mem_stamped hline
    exact Machine.isNoted_of_isWorded (heq ▸ Text.newline_notMem_bare hrow) hworded
  have hrising : noted.Pairwise (· < ·) :=
    Run.pairwise_offsetsWhere (Text.pairwise_stamped fun _ => Text.ne_nil_of_mem_rows)
  obtain ⟨hfirst, hlast⟩ := Run.instructions_feedAll (r := ⟨m, {}⟩) rfl (Text.stamped (Text.rows text))
  rw [← hstore] at hfirst hlast
  refine ⟨hfirst, hlast, hsub, fun hall => ?_, fun g hg => ?_⟩
  · refine (hsub.antisymm (Run.offsetsWhere_sublist fun line hline hnoted => ?_)).symm
    obtain ⟨⟨row, hrow, heq⟩, -⟩ := Text.mem_stamped hline
    rw [← heq] at hnoted ⊢
    exact hall row hrow hnoted
  · rw [hstore] at hg
    obtain ⟨past, line, later, hlines, hdrawn⟩ := Run.exists_line_of_mem rfl hg
    have hworded := (Machine.interpreted ..).isWorded_of_mem hdrawn
    have hline : line ∈ Text.stamped (Text.rows text) := by simp [hlines]
    have hmem : g.offset ∈ worded := by
      refine List.mem_map.mpr ⟨line, List.mem_filter.mpr ⟨hline, hworded⟩, ?_⟩
      rw [Segment.offset, Machine.stamp_eq_of_mem hdrawn]
    rw [hfirst, hlast]
    exact ⟨hmem, exists_ends_of_mem hrising (hsub.subset hmem)⟩

theorem ofText_instructions_between_comments :
    let text := ";start\nG1 X1 E1\n\n(note) G1 X2 E1 ;last\n;end".toList
    ∃ i, ofText {} text = .ok i ∧ Text.offsetsWhere Machine.isNoted text = [16, 39] ∧
      i.store.firstInstruction = some 16 ∧ i.store.lastInstruction = some 39 ∧
      i.store.segments.map Segment.offset = #[16, 39] := by
  intro text
  let m : Machine := {
    parsing := {}
    coloring := {}
    resolution := {}
    tools := Settings.toolTable {}
    classifier := { style := .generic }
    state := .initial true ((Settings.toolTable {}).color 0) none }
  have hblank : ¬ Text.isBlankLine text := by decide +kernel
  have hm : Machine.ofSettings {} (.ofProgram text) = .ok m := by rfl
  have htext := ofText_eq_ofRun hm hblank
  have hnoted : Text.offsetsWhere Machine.isNoted text = [16, 39] := by decide +kernel
  obtain ⟨hfirst, hlast, _⟩ := ofText_instructions htext
  rw [hnoted] at hfirst hlast
  exact ⟨_, htext, hnoted, hfirst, hlast, by decide +kernel⟩

theorem ofText_instructions_enclosed :
    let text := "(first)\nG1 X1 E1\n(last)\n".toList
    ∃ i, ofText {} text = .ok i ∧ Text.offsetsWhere Machine.isWorded text = [17] ∧
      i.store.firstInstruction = some 8 ∧ i.store.lastInstruction = some 24 := by
  intro text
  let m : Machine := {
    parsing := {}
    coloring := {}
    resolution := {}
    tools := Settings.toolTable {}
    classifier := { style := .generic }
    state := .initial true ((Settings.toolTable {}).color 0) none }
  have hblank : ¬ Text.isBlankLine text := by decide +kernel
  have hm : Machine.ofSettings {} (.ofProgram text) = .ok m := by rfl
  have hworded : Text.offsetsWhere Machine.isWorded text = [17] := by decide +kernel
  exact ⟨_, ofText_eq_ofRun hm hblank, hworded, by decide +kernel, by decide +kernel⟩

end Interpretation
end Toolpath
