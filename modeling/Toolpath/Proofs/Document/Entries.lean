import Mathlib.Data.List.Nodup
import Mathlib.Tactic.Lemma
import Toolpath.Document.Decode

/-! What stands in a record under a name, and that a record is read only if each of its entries is. -/

namespace Toolpath

namespace Document

variable {α : Type} {dialect : Dialect} {fields : List (RecordField α)} {name : String}
  {d v : Document}

inductive Entry (fields : List (RecordField α)) (name : String) : Document → Document → Prop
  | named {entries : List (String × Document)} {v : Document} :
    (name, v) ∈ entries → Entry fields name (.table entries) v
  | placed {items : List Document} {v : Document} {i : Nat} {f : RecordField α} :
    fields[i]? = some f → f.name = name → items[i]? = some v → Entry fields name (.list items) v

lemma exists_step_of_foldlM {β γ : Type} {f : β → γ → Option β} {xs : List γ} {x : γ}
    {initial final : β} (h : xs.foldlM f initial = some final) (hx : x ∈ xs) :
    ∃ y, (f y x).isSome := by
  induction xs generalizing initial with
  | nil => cases hx
  | cons head xs ih =>
    rw [List.foldlM_cons] at h
    obtain ⟨next, hnext, h⟩ := Option.bind_eq_some_iff.mp h
    rcases List.mem_cons.mp hx with rfl | hx
    · exact ⟨initial, Option.isSome_of_eq_some hnext⟩
    · exact ih h hx

lemma Entry.isSome {β : Type} {read? : Document → Option β} {put : β → α → α} {initial x : α}
    (h : Entry fields name d v) (hnodup : (fields.map (·.name)).Nodup)
    (hfield : RecordField.of name read? put ∈ fields)
    (hread : asRecord? dialect fields initial d = some x) : (read? v).isSome := by
  have hunique (f : RecordField α) (hf : f ∈ fields) (hname : f.name = name) :
      f = .of name read? put :=
    List.inj_on_of_nodup_map hnodup hf hfield hname
  have hisSome {y : α} (hset : ((RecordField.of name read? put).set? v y).isSome) :
      (read? v).isSome := by
    rwa [RecordField.of, Option.isSome_map] at hset
  cases h with
  | @named entries _ hv =>
    rw [asRecord?] at hread
    split at hread
    · have hknown : (name, v) ∈
          entries.filter fun e => fields.any fun f : RecordField α => f.name == e.1 :=
        List.mem_filter.mpr ⟨hv, List.any_eq_true.mpr ⟨_, hfield, beq_self_eq_true name⟩⟩
      obtain ⟨y, hy⟩ := exists_step_of_foldlM hread hknown
      obtain ⟨z, hz⟩ := Option.isSome_iff_exists.mp hy
      obtain ⟨f, hf, hz⟩ := Option.bind_eq_some_iff.mp hz
      have hname : (f.name == name) = true :=
        List.find?_some (p := fun f : RecordField α => f.name == name) hf
      rw [hunique f (List.mem_of_find?_eq_some hf) (eq_of_beq hname)] at hz
      exact hisSome (Option.isSome_of_eq_some hz)
    · cases hread
  | @placed items _ i f hf hname hv =>
    rw [asRecord?] at hread
    split at hread
    · cases hread
    · have hmem : (f, v) ∈ fields.zip items :=
        List.mem_of_getElem? (List.getElem?_zip_eq_some.mpr ⟨hf, hv⟩)
      obtain ⟨y, hy⟩ := exists_step_of_foldlM hread hmem
      rw [hunique f (List.mem_of_getElem? hf) hname] at hy
      exact hisSome hy

lemma isSome_of_asList? {β : Type} {read? : Document → Option β} {items : List Document}
    (h : (asList? read? (.list items)).isSome) (hv : v ∈ items) : (read? v).isSome := by
  rw [asList?] at h
  induction items with
  | nil => cases hv
  | cons head items ih =>
    obtain ⟨xs, hxs⟩ := Option.isSome_iff_exists.mp h
    rw [List.mapM_cons] at hxs
    obtain ⟨x, hx, hxs⟩ := Option.bind_eq_some_iff.mp hxs
    obtain ⟨rest, hrest, -⟩ := Option.bind_eq_some_iff.mp hxs
    rcases List.mem_cons.mp hv with rfl | hv
    · exact Option.isSome_of_eq_some hx
    · exact ih (Option.isSome_of_eq_some hrest) hv

end Document
end Toolpath
