import Mathlib.Data.List.Induction
import Toolpath.Proofs.Motion.Annotations
import Toolpath.Proofs.Slicer.Conventions

/-! What a classifier knows after any comments: of features and of heights the last one counts, each
for itself, and names without a row in the table are kept. -/

namespace Toolpath

section Latest

variable {α β : Type} {Tells : α → β → Prop} {history : List α} {a : α} {b : β}

/-- What the last entry of a history tells that tells anything. -/
def Latest (Tells : α → β → Prop) (history : List α) (b : β) : Prop :=
  ∃ past a later, history = past ++ a :: later ∧ Tells a b ∧ ∀ x ∈ later, ∀ c, ¬ Tells x c

lemma not_latest_nil : ¬ Latest Tells [] b := by
  rintro ⟨past, a, later, h, -⟩
  exact List.append_ne_nil_of_right_ne_nil past (List.cons_ne_nil a later) h.symm

lemma latest_concat :
    Latest Tells (history ++ [a]) b ↔ Tells a b ∨ (∀ c, ¬ Tells a c) ∧ Latest Tells history b := by
  constructor
  · rintro ⟨past, x, later, heq, hx, hlater⟩
    -- Either the new entry tells the last thing, or it comes after the one that does.
    rcases List.eq_nil_or_concat later with rfl | ⟨later, y, rfl⟩
    · obtain ⟨-, hxa⟩ := List.append_inj' heq rfl
      obtain rfl := List.singleton_inj.mp hxa
      exact Or.inl hx
    · rw [List.concat_eq_append, ← List.cons_append, ← List.append_assoc] at heq
      obtain ⟨rfl, hya⟩ := List.append_inj' heq rfl
      obtain rfl := List.singleton_inj.mp hya
      rw [List.concat_eq_append, List.forall_mem_append, List.forall_mem_singleton] at hlater
      exact Or.inr ⟨hlater.2, past, x, later, rfl, hx, hlater.1⟩
  · rintro (h | ⟨ha, past, x, later, rfl, hx, hlater⟩)
    · exact ⟨history, a, [], rfl, h, List.forall_mem_nil _⟩
    · refine ⟨past, x, later ++ [a], by simp, hx, ?_⟩
      rw [List.forall_mem_append, List.forall_mem_singleton]
      exact ⟨hlater, ha⟩

end Latest

namespace Classifier

variable {style : SlicerStyle} {c : Classifier} {comments : List (List Char)} {comment : List Char}
  {name : String} {t : Float}

def hear (c : Classifier) (comment : List Char) : Classifier := (c.recognize comment).1

def ofComments (style : SlicerStyle) (comments : List (List Char)) : Classifier :=
  comments.foldl hear { style }

lemma ofComments_append (style : SlicerStyle) (comments later : List (List Char)) :
    ofComments style (comments ++ later) = later.foldl hear (ofComments style comments) :=
  List.foldl_append

lemma hear_of_annotates {a : Annotation} (h : c.style.Annotates comment a) :
    c.hear comment = c.apply a := by
  rw [hear, recognize, h.annotation?_eq]

lemma hear_of_silent (h : ∀ a, ¬ c.style.Annotates comment a) : c.hear comment = c := by
  have hnone : c.style.annotation? comment = none :=
    Option.eq_none_iff_forall_ne_some.mpr fun a ha => h a (.of_annotation? ha)
  rw [hear, recognize, hnone]

lemma hear_comm {naming announcing : List Char} (hname : c.style.Names naming name)
    (hheight : c.style.Announces announcing t) :
    (c.hear naming).hear announcing = (c.hear announcing).hear naming := by
  have hlater : (c.apply (.height t)).style.Names naming name := hname
  have hnext : (c.apply (.feature name)).style.Announces announcing t := hheight
  calc (c.hear naming).hear announcing
    _ = (c.apply (.feature name)).apply (.height t) := by
      rw [hear_of_annotates hname, hear_of_annotates hnext]
    _ = (c.apply (.height t)).apply (.feature name) := rfl
    _ = (c.hear announcing).hear naming := by
      rw [hear_of_annotates hheight, hear_of_annotates hlater]

lemma missing_apply (c : Classifier) (name : String) : (c.apply (.feature name)).missing =
    if c.style.lookup? name = none then c.missing.insert name else c.missing := by
  simp only [apply, Option.isNone_iff_eq_none]

lemma mem_missing_apply {n : String} : n ∈ (c.apply (.feature name)).missing ↔
    n ∈ c.missing ∨ n = name ∧ c.style.lookup? n = none := by
  rw [missing_apply]
  split
  · next h =>
    rw [List.mem_insert_iff, or_comm]
    exact or_congr_right (iff_self_and.mpr fun heq => heq ▸ h)
  · next h =>
    refine (or_iff_left ?_).symm
    rintro ⟨rfl, hnone⟩
    exact h hnone

lemma nodup_missing_apply (h : c.missing.Nodup) (name : String) :
    (c.apply (.feature name)).missing.Nodup := by
  rw [missing_apply]
  split
  · exact h.insert
  · exact h

lemma missing_apply_of_mem (h : c.style.lookup? name = none → name ∈ c.missing) :
    (c.apply (.feature name)).missing = c.missing := by
  rw [missing_apply]
  split
  · next hnone => exact List.insert_of_mem (h hnone)
  · rfl

structure Remembers (style : SlicerStyle) (c : Classifier) (comments : List (List Char)) : Prop where
  style_eq : c.style = style
  feature name : c.feature = some name ↔ Latest style.Names comments name
  lookedUp : c.LookedUp
  height t : c.heightHint = some t ↔ Latest style.Announces comments t
  missing name : name ∈ c.missing ↔
    (∃ comment ∈ comments, style.Names comment name) ∧ style.lookup? name = none
  nodup : c.missing.Nodup

lemma remembers_nil (style : SlicerStyle) : Remembers style { style } [] where
  style_eq := rfl
  feature name := iff_of_false nofun not_latest_nil
  lookedUp := rfl
  height t := iff_of_false nofun not_latest_nil
  missing name := iff_of_false nofun fun h => by simp at h
  nodup := List.nodup_nil

lemma Remembers.silent (h : c.Remembers style comments) (hc : ∀ a, ¬ style.Annotates comment a) :
    c.Remembers style (comments ++ [comment]) where
  style_eq := h.style_eq
  feature name := by simp [latest_concat, SlicerStyle.Names, hc, h.feature]
  lookedUp := h.lookedUp
  height t := by simp [latest_concat, SlicerStyle.Announces, hc, h.height]
  missing name := by simp [or_and_right, exists_or, SlicerStyle.Names, hc, h.missing]
  nodup := h.nodup

lemma Remembers.apply_feature (h : c.Remembers style comments) (hc : style.Names comment name) :
    (c.apply (.feature name)).Remembers style (comments ++ [comment]) where
  style_eq := h.style_eq
  feature n := by simp [latest_concat, SlicerStyle.Names, hc.iff_eq, apply]
  lookedUp := rfl
  height t := by simp [latest_concat, SlicerStyle.Announces, hc.iff_eq, ← h.height, apply]
  missing n := by
    rw [mem_missing_apply, h.missing, h.style_eq, ← or_and_right]
    simp [or_and_right, exists_or, SlicerStyle.Names, hc.iff_eq, eq_comm]
  nodup := nodup_missing_apply h.nodup _

lemma Remembers.apply_height (h : c.Remembers style comments) (hc : style.Announces comment t) :
    (c.apply (.height t)).Remembers style (comments ++ [comment]) where
  style_eq := h.style_eq
  feature n := by simp [latest_concat, SlicerStyle.Names, hc.iff_eq, ← h.feature, apply]
  lookedUp := h.lookedUp
  height t := by simp [latest_concat, SlicerStyle.Announces, hc.iff_eq, apply]
  missing n := by simp [or_and_right, exists_or, SlicerStyle.Names, hc.iff_eq, h.missing, apply]
  nodup := h.nodup

lemma Remembers.hear (h : c.Remembers style comments) (comment : List Char) :
    (c.hear comment).Remembers style (comments ++ [comment]) := by
  obtain rfl := h.style_eq
  by_cases hc : ∃ a, c.style.Annotates comment a
  · obtain ⟨a, ha⟩ := hc
    rw [hear_of_annotates ha]
    cases a with
    | feature name => exact h.apply_feature ha
    | height t => exact h.apply_height ha
  · rw [not_exists] at hc
    rw [hear_of_silent hc]
    exact h.silent hc

lemma remembers_ofComments (style : SlicerStyle) (comments : List (List Char)) :
    (ofComments style comments).Remembers style comments := by
  induction comments using List.reverseRecOn with
  | nil => exact remembers_nil style
  | append_singleton comments comment ih =>
    rw [ofComments_append]
    exact ih.hear comment

lemma Remembers.entry_eq_some (h : c.Remembers style comments)
    (hname : Latest style.Names comments name) {row : Feature} (hrow : row ∈ style.features)
    (heq : row.name = name) : c.entry = some row := by
  rw [h.lookedUp, (h.feature name).mpr hname, h.style_eq]
  exact SlicerStyle.lookup?_eq_some hrow heq

lemma Remembers.entry_eq_none (h : c.Remembers style comments)
    (hrow : ∀ name, Latest style.Names comments name → ∀ row ∈ style.features, row.name ≠ name) :
    c.entry = none := by
  rw [h.lookedUp, h.style_eq, Option.bind_eq_none_iff]
  intro name hname
  exact SlicerStyle.lookup?_eq_none_iff.mpr (hrow name ((h.feature name).mp hname))

lemma Remembers.missing_hear_again (h : c.Remembers style comments)
    (hsaid : ∃ comment ∈ comments, style.Names comment name) (hagain : style.Names comment name) :
    (c.hear comment).missing = c.missing := by
  obtain rfl := h.style_eq
  rw [hear_of_annotates hagain]
  exact missing_apply_of_mem fun hnone => (h.missing name).mpr ⟨hsaid, hnone⟩

theorem ofComments_remembers (style : SlicerStyle) (comments : List (List Char)) :
    let c := ofComments style comments
    (∀ name, c.feature = some name ↔ Latest style.Names comments name) ∧
      (∀ name, Latest style.Names comments name → ∀ row ∈ style.features, row.name = name →
        c.color = row.color ∧ c.isPerimeter = row.isPerimeter ∧ c.isSupport = row.isSupport) ∧
      ((∀ name, Latest style.Names comments name → ∀ row ∈ style.features, row.name ≠ name) →
        c.color = Feature.unknownColor ∧ c.isPerimeter ∧ ¬ c.isSupport) ∧
      (∀ t, c.heightHint = some t ↔ Latest style.Announces comments t) ∧
      (∀ name, name ∈ c.missing ↔
        (∃ comment ∈ comments, style.Names comment name) ∧ ∀ row ∈ style.features, row.name ≠ name) ∧
      c.missing.Nodup ∧
      (∀ naming name announcing t later,
        style.Names naming name → style.Announces announcing t →
          ofComments style (comments ++ naming :: announcing :: later) =
            ofComments style (comments ++ announcing :: naming :: later)) ∧
      ∀ again name, (∃ comment ∈ comments, style.Names comment name) → style.Names again name →
        (ofComments style (comments ++ [again])).missing = c.missing := by
  intro c
  have h : c.Remembers style comments := remembers_ofComments style comments
  refine ⟨h.feature, fun name hname row hrow heq => ?_, fun hrow => ?_, h.height, fun name => ?_,
    h.nodup, fun naming name announcing t later hname hheight => ?_, fun again name hsaid hagain => ?_⟩
  · simp [color, isPerimeter, isSupport, h.entry_eq_some hname hrow heq]
  · simp [color, isPerimeter, isSupport, h.entry_eq_none hrow]
  · rw [h.missing, SlicerStyle.lookup?_eq_none_iff]
  · rw [← h.style_eq] at hname hheight
    rw [ofComments_append, ofComments_append]
    exact congrArg (later.foldl hear) (hear_comm hname hheight)
  · rw [ofComments_append]
    exact h.missing_hear_again hsaid hagain

theorem ofComments_remembers_mystery :
    let style := SlicerStyle.orcaSlicer
    let mystery := ";TYPE:Mystery".toList
    let comments := [mystery, ";HEIGHT:0.28".toList, " ;TYPE: Outer wall ".toList]
    let c := ofComments style comments
    let after := ofComments style (comments ++ [mystery])
    let later := [";TYPE:Bridge".toList, ";HEIGHT:0.2".toList]
    Latest style.Names comments "Outer wall" ∧ c.color = .rgb 1.0 0.9 0.3 ∧ c.isPerimeter ∧
      ¬ c.isSupport ∧ Latest style.Announces comments 0.28 ∧ c.missing = ["Mystery"] ∧
      Latest style.Names (comments ++ [mystery]) "Mystery" ∧ after.color = Feature.unknownColor ∧
      after.isPerimeter ∧ ¬ after.isSupport ∧ after.missing = c.missing ∧
      ofComments style (comments ++ later) = ofComments style (comments ++ later.reverse) := by
  intro style mystery comments c after later
  obtain ⟨hfeature, hknown, -, hheight, -, -, hcomm, hagain⟩ := ofComments_remembers style comments
  obtain ⟨hreplaced, -, hunknown, -⟩ := ofComments_remembers style (comments ++ [mystery])
  have hmystery : style.Names mystery "Mystery" := .of_annotation? (by decide +kernel)
  have hbridge : style.Names ";TYPE:Bridge".toList "Bridge" := .of_annotation? (by decide +kernel)
  have hthin : style.Announces ";HEIGHT:0.2".toList 0.2 := .of_annotation? (by decide +kernel)
  have hwall : Latest style.Names comments "Outer wall" :=
    (hfeature "Outer wall").mp (by decide +kernel)
  have hthick : Latest style.Announces comments 0.28 := (hheight 0.28).mp (by decide +kernel)
  have hlast : after.feature = some "Mystery" := by decide +kernel
  have hrow (name : String) (hname : Latest style.Names (comments ++ [mystery]) name) :
      ∀ row ∈ style.features, row.name ≠ name := by
    obtain rfl := Option.some.inj (hlast.symm.trans ((hreplaced name).mpr hname))
    decide +kernel
  obtain ⟨hcolor, hperimeter, hsupport⟩ :=
    hknown "Outer wall" hwall (.wall "Outer wall" 1.0 0.9 0.3) (by decide +kernel) rfl
  obtain ⟨hgrey, hkept, hfree⟩ := hunknown hrow
  exact ⟨hwall, hcolor, hperimeter, Bool.eq_false_iff.mp hsupport, hthick, by decide +kernel,
    (hreplaced "Mystery").mp hlast, hgrey, hkept, hfree,
    hagain mystery "Mystery" ⟨mystery, List.mem_cons_self, hmystery⟩ hmystery,
    hcomm _ "Bridge" _ 0.2 [] hbridge hthin⟩

end Classifier

namespace Run

variable {s : Settings} {tools : ToolTable} {style : SlicerStyle} {m : Machine}

lemma classifier_feedAll (h : Machine.ofTools s tools style = .ok m)
    (lines : List (List Char × Stamp)) :
    ((⟨m, {}⟩ : Run).feedAll lines).machine.classifier =
      Classifier.ofComments style (lines.map (Text.trim ·.1)) := by
  induction lines using List.reverseRecOn with
  | nil => exact Machine.classifier_ofTools h
  | append_singleton lines line ih =>
    rw [feedAll_concat, machine_feed, Machine.classifier_interpret, ih, List.map_append,
      Classifier.ofComments_append]
    rfl

theorem feedAll_remembers (h : Machine.ofTools s tools style = .ok m)
    (lines : List (List Char × Stamp)) :
    ((⟨m, {}⟩ : Run).feedAll lines).machine.classifier.Remembers style
      (lines.map (Text.trim ·.1)) := by
  rw [classifier_feedAll h]
  exact Classifier.remembers_ofComments style _

end Run
end Toolpath
