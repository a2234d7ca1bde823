import Toolpath.Proofs.Motion.Drawn
import Toolpath.Proofs.Motion.Rig
import Toolpath.Proofs.Slicer.Conventions

/-! Annotations: what the comments of a program tell the classifier, and what else they change. -/

namespace Toolpath

namespace Text

variable {c : Char} {cs : List Char}

lemma prefix_trimEnd (cs : List Char) : trimEnd cs <+: cs := by
  have hsuffix := List.reverse_prefix.mpr (List.dropWhile_suffix isBlank (l := cs.reverse))
  rw [List.reverse_reverse] at hsuffix
  exact hsuffix

lemma head?_trimStart_of_trim (h : (trim cs).head? = some c) : (trimStart cs).head? = some c := by
  obtain ⟨rest, hrest⟩ := prefix_trimEnd (trimStart cs)
  rw [trim] at h
  rw [← hrest, List.head?_append, h]
  rfl

end Text

def Annotation.height? : Annotation → Option Float
  | .feature _ => none
  | .height h => some h

namespace SlicerStyle

variable {style : SlicerStyle} {line : List Char} {a : Annotation}

def height? (style : SlicerStyle) (line : List Char) : Option Float :=
  (style.annotation? (Text.trim line)).bind Annotation.height?

def colorOf (style : SlicerStyle) (feature : Option String) : Color :=
  ((feature.bind style.lookup?).map (·.color)).getD Feature.unknownColor

lemma isCommentLine_of_annotation? (h : style.annotation? line = some a) : isCommentLine line := by
  suffices hhead : (Text.trim line).head? = some ';' from
    decide_eq_true (Text.head?_trimStart_of_trim hhead)
  cases annotation?_eq_some_iff.mp h with
  | feature hmark hline =>
    rw [hline]
    cases style <;> cases hmark <;> rfl
  | height _ hline _ =>
    rw [hline]
    rfl

lemma height?_eq_none (h : style ≠ .orcaSlicer) (line : List Char) : style.height? line = none := by
  rw [height?, Option.bind_eq_none_iff]
  intro a ha
  cases annotation?_eq_some_iff.mp ha with
  | feature => rfl
  | height hstyle => exact absurd hstyle h

end SlicerStyle

namespace Classifier

variable (c : Classifier) (line : List Char)

def note (c : Classifier) (line : List Char) : Classifier := (c.recognize (Text.trim line)).1

lemma note_eq :
    c.note line = ((c.style.annotation? (Text.trim line)).map c.apply).getD c := by
  rw [note, recognize]
  split <;> simp [*]

lemma style_note : (c.note line).style = c.style := by
  rw [note_eq]
  cases c.style.annotation? (Text.trim line) with
  | none => rfl
  | some a => cases a <;> rfl

lemma heightHint_note : (c.note line).heightHint = (c.style.height? line).or c.heightHint := by
  rw [note_eq, SlicerStyle.height?]
  cases c.style.annotation? (Text.trim line) with
  | none => rfl
  | some a => cases a <;> rfl

def LookedUp (c : Classifier) : Prop := c.entry = c.feature.bind c.style.lookup?

lemma LookedUp.note {c : Classifier} (h : c.LookedUp) (line : List Char) : (c.note line).LookedUp := by
  rw [note_eq]
  cases c.style.annotation? (Text.trim line) with
  | none => exact h
  | some a =>
    cases a with
    | feature name => rfl
    | height t => exact h

lemma LookedUp.color_eq {c : Classifier} (h : c.LookedUp) : c.color = c.style.colorOf c.feature := by
  rw [color, SlicerStyle.colorOf, h]

end Classifier

namespace Machine

variable {m : Machine} {line : List Char} {stamp : Stamp}

lemma classifier_annotate (m : Machine) (line : List Char) :
    (m.annotate line).classifier = (m.classifier.recognize line).1 := by
  rw [annotate]
  dsimp only
  split <;> rfl

lemma classifier_recordAll (m : Machine) (faults : List Fault) :
    (m.recordAll faults).classifier = m.classifier := rfl

lemma classifier_execute (m : Machine) (i : Instruction) (stamp : Stamp) :
    (m.execute i stamp).1.classifier = m.classifier :=
  (congrArg Rig.classifier (rig_execute m i stamp) :)

lemma classifier_interpret (m : Machine) (line : List Char) (stamp : Stamp) :
    (m.interpret line stamp).1.classifier = m.classifier.note line := by
  have hother (h : ¬ isCommentLine (Text.trim line)) : m.classifier.note line = m.classifier := by
    rw [Classifier.note_eq]
    cases ha : m.classifier.style.annotation? (Text.trim line) with
    | none => rfl
    | some a => exact absurd (SlicerStyle.isCommentLine_of_annotation? ha) h
  rw [interpret]
  dsimp only
  split
  · next h =>
    refine (hother ?_).symm
    rw [List.isEmpty_iff.mp h]
    decide
  · split
    · exact classifier_annotate m _
    · next h =>
      rw [hother h]
      split
      · rfl
      · rw [classifier_execute, classifier_recordAll]

lemma classifier_ofTools {s : Settings} {tools : ToolTable} {style : SlicerStyle}
    (h : ofTools s tools style = .ok m) : m.classifier = { style } := by
  obtain ⟨resolution, rfl⟩ := exists_of_ofTools h
  rfl

lemma Reachable.lookedUp {s : Settings} (h : m.Reachable s) : m.classifier.LookedUp := by
  induction h with
  | start h =>
    rw [classifier_ofTools h]
    rfl
  | interpret line stamp _ ih =>
    rw [classifier_interpret]
    exact ih.note line
  | equip tools _ ih => exact ih

lemma annotate_of_none (h : m.classifier.style.annotation? line = none) : m.annotate line = m := by
  rw [annotate, Classifier.recognize, h]
  rfl

lemma annotate_of_some {a : Annotation} (h : m.classifier.style.annotation? line = some a) :
    m.annotate line =
      { m with
        classifier := m.classifier.apply a
        state := { m.state with color :=
          if m.coloring.mode = .feature then (m.classifier.apply a).color else m.state.color } } := by
  rw [annotate, Classifier.recognize, h]
  dsimp only
  rw [Bool.true_and]
  by_cases hmode : m.coloring.mode = .feature
  · rw [if_pos (decide_eq_true hmode), if_pos hmode]
    rfl
  · rw [if_neg (by simpa using hmode), if_neg hmode]

lemma interpret_comment (hline : isCommentLine (Text.trim line)) :
    m.interpret line stamp = (m.annotate (Text.trim line), {}) := by
  have hne : ¬ (Text.trim line).isEmpty := fun hempty => by
    rw [List.isEmpty_iff.mp hempty] at hline
    exact absurd hline (by decide)
  rw [interpret]
  dsimp only
  rw [if_neg hne, if_pos hline]

end Machine

namespace Run

def announced (style : SlicerStyle) (lines : List (List Char × Stamp)) : List Float :=
  lines.filterMap (style.height? ·.1)

lemma announced_concat (style : SlicerStyle) (lines : List (List Char × Stamp))
    (line : List Char × Stamp) :
    announced style (lines ++ [line]) = announced style lines ++ (style.height? line.1).toList := by
  rw [announced, List.filterMap_append, List.filterMap_cons, List.filterMap_nil, announced]
  cases style.height? line.1 <;> rfl

lemma announced_eq_nil {style : SlicerStyle} (h : style ≠ .orcaSlicer)
    (lines : List (List Char × Stamp)) : announced style lines = [] :=
  List.filterMap_eq_nil_iff.mpr fun line _ => SlicerStyle.height?_eq_none h line.1

lemma style_feedAll (r : Run) (lines : List (List Char × Stamp)) :
    (r.feedAll lines).machine.classifier.style = r.machine.classifier.style :=
  machine_feedAll (P := fun m => m.classifier.style = r.machine.classifier.style) rfl
    fun m hm line _ => by rw [Machine.classifier_interpret, Classifier.style_note, hm]

lemma heightHint_feedAll {s : Settings} {tools : ToolTable} {style : SlicerStyle} {m : Machine}
    (h : Machine.ofTools s tools style = .ok m) (lines : List (List Char × Stamp)) :
    ((⟨m, {}⟩ : Run).feedAll lines).machine.classifier.heightHint =
      (announced style lines).getLast? := by
  have hfresh := Machine.classifier_ofTools h
  induction lines using List.reverseRecOn with
  | nil => exact (congrArg Classifier.heightHint hfresh :)
  | append_singleton lines line ih =>
    rw [feedAll_concat, machine_feed, Machine.classifier_interpret, Classifier.heightHint_note, ih,
      style_feedAll, hfresh, announced_concat]
    cases style.height? line.1 with
    | none => rw [Option.toList_none, List.append_nil, Option.none_or]
    | some t => rw [Option.toList_some, List.getLast?_concat, Option.some_or]

theorem feed_comment {s : Settings} {m : Machine} (h : m.Reachable s) (store : Store)
    {line : List Char} (hline : isCommentLine (Text.trim line)) (stamp : Stamp) :
    let c := m.classifier
    let mark := c.style.annotation? (Text.trim line)
    let color := fun feature =>
      if m.coloring.mode = .feature then c.style.colorOf feature else m.state.color
    let after := (⟨m, store⟩ : Run).feed line stamp
    (m.interpret line stamp).2 = {} ∧ after.store = store ∧
      (mark = none → after.machine = m) ∧
      (∀ name, mark = some (.feature name) → after.machine =
        { m with
          classifier := { c with
            feature := some name
            entry := c.style.lookup? name
            missing := if (c.style.lookup? name).isNone then c.missing.insert name else c.missing }
          state := { m.state with color := color (some name) } }) ∧
      ∀ height, mark = some (.height height) → after.machine =
        { m with
          classifier := { c with heightHint := some height }
          state := { m.state with color := color c.feature } } := by
  intro c mark color after
  have hinterpret : m.interpret line stamp = (m.annotate (Text.trim line), {}) :=
    Machine.interpret_comment hline
  have hafter : after.machine = m.annotate (Text.trim line) := by
    rw [machine_feed, hinterpret]
  have hdrawing : (m.interpret line stamp).2 = {} := by rw [hinterpret]
  refine ⟨hdrawing, ?_, fun hnone => ?_, fun name hfeature => ?_, fun height hheight => ?_⟩
  · rw [store_feed, hdrawing]
    rfl
  · rw [hafter, Machine.annotate_of_none hnone]
  · rw [hafter, Machine.annotate_of_some hfeature]
    rfl
  · rw [hafter, Machine.annotate_of_some hheight]
    dsimp only [color, c]
    rw [← h.lookedUp.color_eq]
    rfl

theorem feed_comment_height :
    let tools := Settings.toolTable {}
    let m : Machine := {
      parsing := {}
      coloring := { mode := .feature }
      resolution := {}
      tools
      classifier := { style := .orcaSlicer }
      state := .initial true (tools.color 0) none }
    let before := ((⟨m, {}⟩ : Run).feedAll [(";TYPE:Bridge".toList, ⟨1, 13⟩),
      ("T1".toList, ⟨2, 16⟩)]).machine
    let line := ";HEIGHT:0.25".toList
    before.Reachable { color := { mode := .feature } } ∧ isCommentLine (Text.trim line) ∧
      before.classifier.style.annotation? (Text.trim line) = some (.height 0.25) ∧
      before.state.color = tools.color 1 ∧
      ((⟨before, {}⟩ : Run).feed line ⟨3, 29⟩).machine =
        { before with
          classifier := { before.classifier with heightHint := some 0.25 }
          state := { before.state with color := .rgb 0.3 0.5 0.73 } } := by
  intro tools m before line
  have hm : Machine.ofTools { color := { mode := .feature } } tools .orcaSlicer = .ok m := by rfl
  have hr : before.Reachable { color := { mode := .feature } } :=
    machine_feedAll (.start hm) fun _ hreachable line _ => hreachable.interpret line.1 line.2
  have hline : isCommentLine (Text.trim line) := by decide
  have hheight : before.classifier.style.annotation? (Text.trim line) = some (.height 0.25) := by
    decide +kernel
  have htool : before.state.color = tools.color 1 := by decide +kernel
  have hmode : before.coloring.mode = .feature := by decide +kernel
  have hbridge : before.classifier.style.colorOf before.classifier.feature = .rgb 0.3 0.5 0.73 := by
    decide +kernel
  obtain ⟨_, _, _, _, hafter⟩ := feed_comment hr {} hline ⟨3, 29⟩
  refine ⟨hr, hline, hheight, htool, ?_⟩
  rw [hafter 0.25 hheight]
  dsimp only
  rw [if_pos hmode, hbridge]

theorem feed_comment_recolors :
    let tools := Settings.toolTable {}
    let m : Machine := {
      parsing := {}
      coloring := { mode := .feature }
      resolution := {}
      tools
      classifier := { style := .orcaSlicer }
      state := .initial true (tools.color 0) none }
    let line := ";HEIGHT:0.2".toList
    m.Reachable { color := { mode := .feature } } ∧ isCommentLine (Text.trim line) ∧
      m.classifier.style.annotation? (Text.trim line) = some (.height 0.2) ∧
      ((⟨m, {}⟩ : Run).feed line ⟨1, 12⟩).machine.state.color ≠ m.state.color := by
  intro tools m line
  have hm : Machine.ofTools { color := { mode := .feature } } tools .orcaSlicer = .ok m := by rfl
  have hline : isCommentLine (Text.trim line) := by decide
  have hheight : m.classifier.style.annotation? (Text.trim line) = some (.height 0.2) := by
    decide +kernel
  exact ⟨.start hm, hline, hheight, by decide +kernel⟩

end Run
end Toolpath
