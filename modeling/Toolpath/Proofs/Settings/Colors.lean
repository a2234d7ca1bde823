import Mathlib
import Toolpath.Proofs.Color.Notation
import Toolpath.Proofs.Document.Entries
import Toolpath.Settings.Load

/-! Texts that are no colors are refused wherever settings are read: as overrides, and in documents at
every place where a color stands. -/

namespace Toolpath

namespace Settings

open Document

variable {s : Settings} {dialect : Dialect} {d v : Document} {name value : String}

def colorNames : List String :=
  ["min_feed_color", "max_feed_color", "progress_color", "travel_color"]

inductive ColorAt (dialect : Dialect) (d v : Document) : Prop
  | ofSection {part : Document} {name : String} : Entry (fields dialect) "color" d part →
    name ∈ colorNames → Entry (colorFields dialect) name part v → ColorAt dialect d v
  | ofTool {tools : List Document} {t : Document} : Entry (fields dialect) "tools" d (.list tools) →
    t ∈ tools → Entry (Tool.fields dialect) "color" t v → ColorAt dialect d v

lemma nodup_colorFields (dialect : Dialect) : ((colorFields dialect).map (·.name)).Nodup := by
  simp [colorFields, RecordField.of]

lemma nodup_toolFields (dialect : Dialect) : ((Tool.fields dialect).map (·.name)).Nodup := by
  simp [Tool.fields, RecordField.of]

lemma nodup_fields (dialect : Dialect) : ((fields dialect).map (·.name)).Nodup := by
  simp [fields, RecordField.of]

lemma exists_colorField (dialect : Dialect) (hname : name ∈ colorNames) :
    ∃ put, RecordField.of name asColor? put ∈ colorFields dialect := by
  simp only [colorNames, List.mem_cons, List.not_mem_nil, or_false] at hname
  rcases hname with rfl | rfl | rfl | rfl
  · exact ⟨_, List.mem_of_getElem? (i := 3) rfl⟩
  · exact ⟨_, List.mem_of_getElem? (i := 4) rfl⟩
  · exact ⟨_, List.mem_of_getElem? (i := 5) rfl⟩
  · exact ⟨_, List.mem_of_getElem? (i := 6) rfl⟩

lemma ColorAt.isSome (h : ColorAt dialect d v) (hread : ofDocument? dialect d = some s) :
    (asColor? v).isSome := by
  cases h with
  | ofSection hpart hname hv =>
    obtain ⟨put, hfield⟩ := exists_colorField dialect hname
    obtain ⟨c, hc⟩ := Option.isSome_iff_exists.mp
      (hpart.isSome (nodup_fields dialect) (List.mem_of_getElem? (i := 1) rfl) hread)
    exact hv.isSome (nodup_colorFields dialect) hfield hc
  | ofTool htools ht hv =>
    have hlist := htools.isSome (nodup_fields dialect) (List.mem_of_getElem? (i := 5) rfl) hread
    obtain ⟨tool, htool⟩ := Option.isSome_iff_exists.mp (isSome_of_asList? hlist ht)
    obtain ⟨draft, hdraft, -⟩ := Option.bind_eq_some_iff.mp htool
    exact hv.isSome (nodup_toolFields dialect) (List.mem_of_getElem? (i := 1) rfl) hdraft

lemma ColorAt.ofDocument?_eq_none (h : ColorAt dialect d v) (hv : asColor? v = none) :
    ofDocument? dialect d = none := by
  cases hread : ofDocument? dialect d with
  | none => rfl
  | some s =>
    have hcolor := h.isSome hread
    rw [hv] at hcolor
    cases hcolor

lemma set_color (s : Settings) (hname : name ∈ colorNames) (h : Color.ofHex? value.toList = none) :
    s.set ("color." ++ name) value = .error (.invalidColor ("color." ++ name) value) := by
  simp only [colorNames, List.mem_cons, List.not_mem_nil, or_false] at hname
  have hcolor (key : String) : readColor key value = .error (.invalidColor key value) := by
    rw [readColor, h]
  rcases hname with rfl | rfl | rfl | rfl <;>
    simp [set, replace, setParser, setColor, hcolor] <;> rfl

theorem colors_spelled (text : String) :
    (∀ c, Color.ofHex? text.toList = some c ↔
      ∃ inner, Color.Encloses text.toList inner ∧ Color.Spells Color.Channel inner c) ∧
    (∀ c, (∃ inner, Color.Encloses text.toList inner ∧ Color.Spells Color.TwoDigits inner c) ↔
      Color.ofHex? text.toList = some c ∧ '+' ∉ text.toList) ∧
    (Color.ofHex? text.toList = none →
      (∀ (s : Settings) name, name ∈ colorNames →
        s.set ("color." ++ name) text = .error (.invalidColor ("color." ++ name) text)) ∧
      ∀ source d,
        (Json.read? source = some d → ColorAt .json d (.text text) →
          ofJson source = .error .json) ∧
        (Toml.read? source = some d → ColorAt .toml d (.text text) →
          ofToml source = .error .toml)) := by
  refine ⟨fun c => Color.ofHex?_eq_some_iff_encloses, fun c => Color.encloses_twoDigits_iff,
    fun hnone => ⟨fun s name hname => s.set_color hname hnone, fun source d => ⟨?_, ?_⟩⟩⟩
  · intro hd h
    rw [ofJson, hd, Option.bind_some, h.ofDocument?_eq_none hnone]
  · intro hd h
    rw [ofToml, hd, Option.bind_some, h.ofDocument?_eq_none hnone]

lemma read_green : Toml.read? "[color]\ntravel_color = \"green\"\n".toList =
    some (.table [("color", .table [("travel_color", .text "green")])]) := by
  cbv

lemma read_fiveDigits : Json.read? "\x7b\"tools\": [[\"Mill\", \"#12345\", 1]]\x7d".toList =
    some (.table [("tools", .list [.list [.text "Mill", .text "#12345", .int 1]])]) := by
  cbv

theorem colors_spelled_three_texts :
    Color.ofHex? " ##00fF0080\n".toList = some ⟨Color.ofChannel 0, Color.ofChannel 255,
      Color.ofChannel 0, Color.ofChannel 128⟩ ∧
      (∃ inner, Color.Encloses " ##00fF0080\n".toList inner ∧
        Color.Spells Color.TwoDigits inner ⟨Color.ofChannel 0, Color.ofChannel 255,
          Color.ofChannel 0, Color.ofChannel 128⟩) ∧
      ({} : Settings).set "color.progress_color" "0xFF00" =
        .error (.invalidColor "color.progress_color" "0xFF00") ∧
      ofToml "[color]\ntravel_color = \"green\"\n".toList = .error .toml ∧
      ofJson "\x7b\"tools\": [[\"Mill\", \"#12345\", 1]]\x7d".toList = .error .json := by
  have hread : Color.ofHex? " ##00fF0080\n".toList = some ⟨Color.ofChannel 0, Color.ofChannel 255,
    Color.ofChannel 0, Color.ofChannel 128⟩ := by decide +kernel
  have hset := (colors_spelled "0xFF00").2.2 (by decide +kernel)
  have htoml := (colors_spelled "green").2.2 (by decide +kernel)
  have hjson := (colors_spelled "#12345").2.2 (by decide +kernel)
  refine ⟨hread, ((colors_spelled _).2.1 _).mpr ⟨hread, by decide +kernel⟩,
    hset.1 {} "progress_color" (by decide), (htoml.2 _ _).2 read_green ?_,
    (hjson.2 _ _).1 read_fiveDigits ?_⟩
  · exact .ofSection (.named List.mem_cons_self) (by decide) (.named List.mem_cons_self)
  · exact .ofTool (.named List.mem_cons_self) List.mem_cons_self (.placed (i := 1) rfl rfl rfl)

theorem colors_spelled_with_plus :
    let text := "+F+F+F".toList
    Color.ofHex? text = some (.rgb (Color.ofChannel 15) (Color.ofChannel 15) (Color.ofChannel 15)) ∧
      ¬ ∃ inner c, Color.Encloses text inner ∧ Color.Spells Color.TwoDigits inner c := by
  intro text
  refine ⟨by decide +kernel, ?_⟩
  rintro ⟨inner, c, htext, h⟩
  exact htext.plus_notMem h (by decide +kernel)

end Settings
end Toolpath
