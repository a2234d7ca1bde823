import Mathlib.Data.List.Nodup
import Toolpath.Slicer.Style

/-! What comments tell in the convention of each slicer: `SlicerStyle.Annotates` is the grammar of
annotations, and the tables have one row for each name. -/

namespace Toolpath

lemma Text.after?_eq_some_iff {mark cs rest : List Char} :
    after? mark cs = some rest ↔ cs = mark ++ rest := by
  rw [after?]
  constructor
  · intro h
    split at h
    · next hprefix =>
      obtain ⟨tail, rfl⟩ := List.isPrefixOf_iff_prefix.mp hprefix
      rw [List.drop_left, Option.some.injEq] at h
      rw [h]
    · cases h
  · rintro rfl
    rw [if_pos (List.isPrefixOf_iff_prefix.mpr (List.prefix_append mark rest)), List.drop_left]

namespace SlicerStyle

variable {style : SlicerStyle} {comment : List Char} {a : Annotation} {name : String} {row : Feature}

def featureMark? : SlicerStyle → Option String
  | generic => none
  | kiriMoto => some "; feature"
  | cura | prusaSlicer | superSlicer | orcaSlicer | ideaMaker => some ";TYPE:"

inductive Annotates (style : SlicerStyle) (comment : List Char) : Annotation → Prop
  | feature {mark : String} {name : List Char} : style.featureMark? = some mark →
    Text.trim comment = mark.toList ++ name →
    Annotates style comment (.feature (String.ofList (Text.trim name)))
  | height {text : List Char} {h : Float} : style = orcaSlicer →
    Text.trim comment = ";HEIGHT:".toList ++ text → Numeral.float? (Text.trim text) = some h →
    Annotates style comment (.height h)

def Names (style : SlicerStyle) (comment : List Char) (name : String) : Prop :=
  style.Annotates comment (.feature name)

def Announces (style : SlicerStyle) (comment : List Char) (t : Float) : Prop :=
  style.Annotates comment (.height t)

lemma featureAfter?_eq_some_iff {mark : String} :
    featureAfter? mark comment = some a ↔
      ∃ name, comment = mark.toList ++ name ∧ .feature (String.ofList (Text.trim name)) = a := by
  simp only [featureAfter?, Option.map_eq_some_iff, Text.after?_eq_some_iff]

lemma Annotates.of_featureAfter? {mark : String} (hmark : style.featureMark? = some mark)
    (h : featureAfter? mark (Text.trim comment) = some a) : style.Annotates comment a := by
  obtain ⟨name, hcomment, rfl⟩ := featureAfter?_eq_some_iff.mp h
  exact .feature hmark hcomment

lemma Annotates.of_annotation? (h : style.annotation? comment = some a) :
    style.Annotates comment a := by
  unfold annotation? at h
  cases style with
  | generic => cases h
  | kiriMoto | cura | prusaSlicer | superSlicer | ideaMaker => exact .of_featureAfter? rfl h
  | orcaSlicer =>
    dsimp only at h
    split at h
    · next text htext =>
      obtain ⟨height, hheight, rfl⟩ := Option.map_eq_some_iff.mp h
      exact .height rfl (Text.after?_eq_some_iff.mp htext) hheight
    · exact .of_featureAfter? rfl h

lemma Annotates.annotation?_eq (h : style.Annotates comment a) : style.annotation? comment = some a := by
  unfold annotation?
  cases h with
  | @feature mark name hmark hcomment =>
    have hname := featureAfter?_eq_some_iff.mpr ⟨name, hcomment, rfl⟩
    cases style with
    | generic => cases hmark
    | kiriMoto | cura | prusaSlicer | superSlicer | ideaMaker =>
      cases hmark
      exact hname
    | orcaSlicer =>
      cases hmark
      have hheight : Text.after? ";HEIGHT:".toList (Text.trim comment) = none := by
        rw [hcomment]
        rfl
      dsimp only
      rw [hheight]
      exact hname
  | height hstyle hcomment hheight =>
    subst hstyle
    dsimp only
    rw [Text.after?_eq_some_iff.mpr hcomment]
    dsimp only
    rw [hheight]
    rfl

lemma annotation?_eq_some_iff : style.annotation? comment = some a ↔ style.Annotates comment a :=
  ⟨.of_annotation?, Annotates.annotation?_eq⟩

lemma Annotates.iff_eq (h : style.Annotates comment a) (b : Annotation) :
    style.Annotates comment b ↔ a = b := by
  rw [← annotation?_eq_some_iff, h.annotation?_eq, Option.some.injEq]

lemma nodup_features (style : SlicerStyle) : (style.features.map (·.name)).Nodup := by
  cases style <;> decide +kernel

lemma lookup?_eq_none_iff : style.lookup? name = none ↔ ∀ row ∈ style.features, row.name ≠ name := by
  simp only [lookup?, List.find?_eq_none, beq_iff_eq, Ne]

lemma lookup?_eq_some (hrow : row ∈ style.features) (hname : row.name = name) :
    style.lookup? name = some row := by
  cases h : style.lookup? name with
  | none => exact absurd hname (lookup?_eq_none_iff.mp h row hrow)
  | some found =>
    have hfound : found.name = name := eq_of_beq (List.find?_some h :)
    rw [List.inj_on_of_nodup_map (nodup_features style) (List.mem_of_find?_eq_some h) hrow
      (hfound.trans hname.symm)]

end SlicerStyle
end Toolpath
