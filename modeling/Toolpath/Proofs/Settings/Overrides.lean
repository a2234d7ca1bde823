import Mathlib.Data.List.Induction
import Mathlib.Tactic.Lemma
import Toolpath.Settings.Override

/-! Overrides one after another. Each of them is refused and changes nothing, or it changes the one
value that its key stands for. -/

namespace Toolpath.Settings

variable {σ τ α β : Type} {key value : String}

structure Place (σ : Type) where
  key : String
  {Value : Type}
  get : σ → Value
  read : String → String → Except SettingsError Value

namespace Place

def inside (p : Place σ) (part : τ → σ) : Place τ := ⟨p.key, p.get ∘ part, p.read⟩

def Sets (places : List (Place σ)) (key value : String) (x y : σ) : Prop :=
  ∀ p ∈ places, if p.key = key then p.read key value = .ok (p.get y) else p.get y = p.get x

end Place

def parserPlaces : List (Place Parsing) := [
  ⟨"parser.absolute_by_default", (·.absoluteByDefault), readValue Numeral.bool?⟩,
  ⟨"parser.arc_segment_length", (·.arcSegmentLength), readValue Numeral.float?⟩,
  ⟨"parser.arc_radius_fixup", (·.arcRadiusFixup), readValue Numeral.bool?⟩,
  ⟨"parser.working_moves_deposit", (·.workingMovesDeposit), readValue Numeral.bool?⟩,
  ⟨"parser.render_travels", (·.renderTravels), readValue Numeral.bool?⟩,
  ⟨"parser.min_segment_length", (·.minSegmentLength), readValue Numeral.float?⟩,
  ⟨"parser.perimeter_only", (·.perimeterOnly), readValue Numeral.bool?⟩]

def colorPlaces : List (Place Coloring) := [
  ⟨"color.mode", (·.mode), readValue readMode?⟩,
  ⟨"color.min_feed_rate", (·.minFeedRate), readValue Numeral.float?⟩,
  ⟨"color.max_feed_rate", (·.maxFeedRate), readValue Numeral.float?⟩,
  ⟨"color.min_feed_color", (·.minFeedColor), readColor⟩,
  ⟨"color.max_feed_color", (·.maxFeedColor), readColor⟩,
  ⟨"color.progress_color", (·.progressColor), readColor⟩,
  ⟨"color.travel_color", (·.travelColor), readColor⟩,
  ⟨"color.darken_delta", (·.darkenDelta), readValue Numeral.float32?⟩]

def playbackPlaces : List (Place Playing) := [
  ⟨"playback.scrub_distance", (·.scrubDistance), readValue (Numeral.bounded? maxWord)⟩,
  ⟨"playback.look_ahead", (·.lookAhead), readValue (Numeral.bounded? maxWord)⟩,
  ⟨"playback.highlight_ticks", (·.highlightTicks), readValue (Numeral.bounded? maxByte)⟩,
  ⟨"playback.batch_size", (·.batchSize), readValue (Numeral.bounded? maxWord)⟩,
  ⟨"playback.ephemeral_travels", (·.ephemeralTravels), readValue Numeral.bool?⟩,
  ⟨"playback.hidden_translucency", (·.hiddenTranslucency), readTranslucency⟩]

def voxelPlaces : List (Place Voxels) := [
  ⟨"voxel.enabled", (·.enabled), readValue Numeral.bool?⟩,
  ⟨"voxel.cell_width", (·.cellWidth), readValue Numeral.float?⟩,
  ⟨"voxel.cell_height", (·.cellHeight), readValue Numeral.float?⟩,
  ⟨"voxel.highlight_ticks", (·.highlightTicks), readValue (Numeral.bounded? maxByte)⟩]

/-- The belt is one value with two keys, of which one sets the angle in it. -/
def beltKeys : List String := ["machine.belt", "machine.belt.angle_deg"]

def places : List (Place Settings) :=
  parserPlaces.map (·.inside parser) ++ colorPlaces.map (·.inside color) ++
    playbackPlaces.map (·.inside playback) ++ voxelPlaces.map (·.inside voxel)

lemma eq_of_places {s t : Settings} (h : ∀ p ∈ places, p.get s = p.get t) (hbelt : s.belt = t.belt)
    (htools : s.tools = t.tools) : s = t := by
  obtain ⟨⟨_, _, _, _, _, _, _⟩, ⟨_, _, _, _, _, _, _, _⟩, ⟨_, _, _, _, _, _⟩, _, ⟨_, _, _, _⟩, _⟩ := s
  obtain ⟨⟨_, _, _, _, _, _, _⟩, ⟨_, _, _, _, _, _, _, _⟩, ⟨_, _, _, _, _, _⟩, _, ⟨_, _, _, _⟩, _⟩ := t
  simp_all [places, parserPlaces, colorPlaces, playbackPlaces, voxelPlaces, Place.inside]

lemma nodup_keys : (places.map (·.key) ++ beltKeys).Nodup := by
  simp [places, parserPlaces, colorPlaces, playbackPlaces, voxelPlaces, Place.inside, beltKeys]

lemma ok_of_bind {x : Except SettingsError α} {f : α → Except SettingsError β} {b : β}
    (h : (x >>= f) = .ok b) : ∃ a, x = .ok a ∧ f a = .ok b := by
  cases x with
  | error e => cases h
  | ok a => exact ⟨a, rfl, h⟩

/-! The parts of the settings, each with keys of its own. -/

inductive Part
  | parser
  | color
  | playback
  | voxel
  | belt
  deriving DecidableEq

def Part.keys : Part → List String
  | parser => parserPlaces.map (·.key)
  | color => colorPlaces.map (·.key)
  | playback => playbackPlaces.map (·.key)
  | voxel => voxelPlaces.map (·.key)
  | belt => beltKeys

lemma Part.notMem_keys {p q : Part} (h : key ∈ p.keys) (hne : p ≠ q) : key ∉ q.keys := by
  have hall : ∀ p q : Part, p = q ∨ ∀ k ∈ p.keys, k ∉ q.keys := by
    intro p q
    cases p <;> cases q <;> decide
  exact (hall p q).resolve_left hne key h

lemma sets_of_setParser {p next : Parsing} (h : setParser p key value = some (.ok next)) :
    key ∈ Part.parser.keys ∧ Place.Sets parserPlaces key value p next := by
  unfold setParser at h
  split at h
  case h_8 => cases h
  all_goals
    obtain ⟨x, hx, h⟩ := ok_of_bind (Option.some.inj h)
    cases h
    simp [Part.keys, Place.Sets, parserPlaces, hx]

lemma sets_of_setColor {c next : Coloring} (h : setColor c key value = some (.ok next)) :
    key ∈ Part.color.keys ∧ Place.Sets colorPlaces key value c next := by
  unfold setColor at h
  split at h
  case h_9 => cases h
  all_goals
    obtain ⟨x, hx, h⟩ := ok_of_bind (Option.some.inj h)
    cases h
    simp [Part.keys, Place.Sets, colorPlaces, hx]

lemma sets_of_setPlayback {p next : Playing} (h : setPlayback p key value = some (.ok next)) :
    key ∈ Part.playback.keys ∧ Place.Sets playbackPlaces key value p next := by
  unfold setPlayback at h
  split at h
  case h_7 => cases h
  all_goals
    obtain ⟨x, hx, h⟩ := ok_of_bind (Option.some.inj h)
    cases h
    simp [Part.keys, Place.Sets, playbackPlaces, hx]

lemma sets_of_setVoxel {v next : Voxels} (h : setVoxel v key value = some (.ok next)) :
    key ∈ Part.voxel.keys ∧ Place.Sets voxelPlaces key value v next := by
  unfold setVoxel at h
  split at h
  case h_5 => cases h
  all_goals
    obtain ⟨x, hx, h⟩ := ok_of_bind (Option.some.inj h)
    cases h
    simp [Part.keys, Place.Sets, voxelPlaces, hx]

structure SetsBelt (key value : String) (b next : Option Belt) : Prop where
  others : key ∉ beltKeys → next = b
  switch : key = "machine.belt" → next = none ∨ next = some (b.getD {})
  angle : key = "machine.belt.angle_deg" → ∃ angle,
    readValue Numeral.float? key value = .ok angle ∧ next = some { b.getD {} with angle }

lemma sets_of_setBelt {b next : Option Belt} (h : setBelt b key value = some (.ok next)) :
    key ∈ Part.belt.keys ∧ SetsBelt key value b next := by
  unfold setBelt at h
  split at h
  case h_3 => cases h
  case h_1 =>
    obtain ⟨on, -, h⟩ := ok_of_bind (Option.some.inj h)
    cases h
    refine ⟨by decide, fun hnot => absurd (by decide) hnot, fun _ => ?_, fun h => absurd h (by decide)⟩
    cases on with
    | false => exact .inl rfl
    | true => exact .inr rfl
  case h_2 =>
    obtain ⟨angle, hangle, h⟩ := ok_of_bind (Option.some.inj h)
    cases h
    exact ⟨by decide, fun hnot => absurd (by decide) hnot, fun h => absurd h (by decide),
      fun _ => ⟨angle, hangle, rfl⟩⟩

namespace Place.Sets

variable {ps : List (Place σ)} {x : σ}

lemma unset (h : key ∉ ps.map (·.key)) : Sets ps key value x x := by
  intro p hp
  have hne : p.key ≠ key := fun heq => h (heq ▸ List.mem_map_of_mem hp)
  rw [if_neg hne]

lemma inside {part : τ → σ} {s t : τ} (h : Sets ps key value (part s) (part t)) :
    Sets (ps.map (·.inside part)) key value s t :=
  List.forall_mem_map.mpr h

end Place.Sets

lemma SetsBelt.unset {b : Option Belt} (h : key ∉ beltKeys) : SetsBelt key value b b where
  others _ := rfl
  switch hkey := absurd (hkey ▸ List.mem_cons_self) h
  angle hkey := absurd (hkey ▸ List.mem_cons_of_mem _ List.mem_cons_self) h

lemma sets_places {s next : Settings}
    (hparser : Place.Sets parserPlaces key value s.parser next.parser)
    (hcolor : Place.Sets colorPlaces key value s.color next.color)
    (hplayback : Place.Sets playbackPlaces key value s.playback next.playback)
    (hvoxel : Place.Sets voxelPlaces key value s.voxel next.voxel) :
    Place.Sets places key value s next := by
  simp only [Place.Sets, places, List.forall_mem_append]
  exact ⟨⟨⟨hparser.inside, hcolor.inside⟩, hplayback.inside⟩, hvoxel.inside⟩

structure Overridden (key value : String) (s next : Settings) : Prop where
  known : ∃ part : Part, key ∈ part.keys
  sets : Place.Sets places key value s next
  belt : SetsBelt key value s.belt next.belt
  tools : next.tools = s.tools

namespace Part

def Sets (key value : String) (s next : Settings) : Part → Prop
  | parser => Place.Sets parserPlaces key value s.parser next.parser
  | color => Place.Sets colorPlaces key value s.color next.color
  | playback => Place.Sets playbackPlaces key value s.playback next.playback
  | voxel => Place.Sets voxelPlaces key value s.voxel next.voxel
  | belt => SetsBelt key value s.belt next.belt

def Keeps (s next : Settings) : Part → Prop
  | parser => next.parser = s.parser
  | color => next.color = s.color
  | playback => next.playback = s.playback
  | voxel => next.voxel = s.voxel
  | belt => next.belt = s.belt

lemma Keeps.sets {s next : Settings} {p : Part} (h : Keeps s next p) (hkey : key ∉ p.keys) :
    Sets key value s next p := by
  cases p with
  | parser => rw [Sets, h]; exact .unset hkey
  | color => rw [Sets, h]; exact .unset hkey
  | playback => rw [Sets, h]; exact .unset hkey
  | voxel => rw [Sets, h]; exact .unset hkey
  | belt => rw [Sets, h]; exact .unset hkey

end Part

lemma overridden_of_part {s next : Settings} {part : Part} (hmem : key ∈ part.keys)
    (hsets : part.Sets key value s next) (hkeeps : ∀ p, part ≠ p → p.Keeps s next)
    (htools : next.tools = s.tools) : Overridden key value s next := by
  have hall (p : Part) : p.Sets key value s next := by
    by_cases hp : part = p
    · exact hp ▸ hsets
    · exact (hkeeps p hp).sets (Part.notMem_keys hmem hp)
  exact ⟨⟨part, hmem⟩, sets_places (hall .parser) (hall .color) (hall .playback) (hall .voxel),
    hall .belt, htools⟩

lemma overridden_of_replace {s next : Settings} (h : s.replace key value = .ok next) :
    Overridden key value s next := by
  unfold replace at h
  split at h
  · next hpart =>
    obtain ⟨_, rfl, h⟩ := ok_of_bind h
    cases h
    obtain ⟨hmem, hsets⟩ := sets_of_setParser hpart
    exact overridden_of_part hmem hsets (fun p hp => by cases p <;> first | rfl | contradiction) rfl
  split at h
  · next hpart =>
    obtain ⟨_, rfl, h⟩ := ok_of_bind h
    cases h
    obtain ⟨hmem, hsets⟩ := sets_of_setColor hpart
    exact overridden_of_part hmem hsets (fun p hp => by cases p <;> first | rfl | contradiction) rfl
  split at h
  · next hpart =>
    obtain ⟨_, rfl, h⟩ := ok_of_bind h
    cases h
    obtain ⟨hmem, hsets⟩ := sets_of_setPlayback hpart
    exact overridden_of_part hmem hsets (fun p hp => by cases p <;> first | rfl | contradiction) rfl
  split at h
  · next hpart =>
    obtain ⟨_, rfl, h⟩ := ok_of_bind h
    cases h
    obtain ⟨hmem, hbelt⟩ := sets_of_setBelt hpart
    exact overridden_of_part hmem hbelt (fun p hp => by cases p <;> first | rfl | contradiction) rfl
  split at h
  · next hpart =>
    obtain ⟨_, rfl, h⟩ := ok_of_bind h
    cases h
    obtain ⟨hmem, hsets⟩ := sets_of_setVoxel hpart
    exact overridden_of_part hmem hsets (fun p hp => by cases p <;> first | rfl | contradiction) rfl
  · cases h

/-! Settings that are held and changed in place. -/

/-- The new settings take the place of the old ones only once they have been checked. -/
def assign (key value : String) : ExceptT SettingsError (StateM Settings) Unit := do
  let next ← (← get).set key value
  MonadStateOf.set next

lemma validate_of_set {s next : Settings} (h : s.set key value = .ok next) :
    next.validate = .ok () := by
  obtain ⟨replaced, -, h⟩ := ok_of_bind h
  obtain ⟨_, hvalid, h⟩ := ok_of_bind h
  cases h
  exact hvalid

lemma overridden_of_set {s next : Settings} (h : s.set key value = .ok next) :
    Overridden key value s next := by
  obtain ⟨replaced, hreplace, h⟩ := ok_of_bind h
  obtain ⟨_, -, h⟩ := ok_of_bind h
  cases h
  exact overridden_of_replace hreplace

lemma assign_cases (s : Settings) (key value : String) :
    (∃ next, s.set key value = .ok next ∧ (assign key value).run.run s = (.ok (), next)) ∨
      ∃ e, (assign key value).run.run s = (.error e, s) := by
  have hrun : (assign key value).run.run s = ExceptT.bindCont (m := StateM Settings)
      (fun next => MonadStateOf.set next) (s.set key value) s := rfl
  rw [hrun]
  cases s.set key value with
  | ok next => exact .inl ⟨next, rfl, rfl⟩
  | error e => exact .inr ⟨e, rfl⟩

lemma validate_assign {s : Settings} (hs : s.validate = .ok ()) (key value : String) :
    ((assign key value).run.run s).2.validate = .ok () := by
  rcases assign_cases s key value with ⟨next, hset, hcall⟩ | ⟨e, hcall⟩
  · rw [hcall]
    exact validate_of_set hset
  · rw [hcall]
    exact hs

def heldAfter (s : Settings) (calls : List (String × String)) : Settings :=
  calls.foldl (fun s call => ((assign call.1 call.2).run.run s).2) s

lemma validate_heldAfter {s : Settings} (hs : s.validate = .ok ()) (calls : List (String × String)) :
    (s.heldAfter calls).validate = .ok () :=
  List.foldlRecOn (motive := fun s : Settings => s.validate = .ok ()) calls _ hs
    fun _ hs call _ => validate_assign hs call.1 call.2

theorem assign_atomic {s : Settings} (hs : s.validate = .ok ()) (past : List (String × String))
    (key value : String) :
    let before := s.heldAfter past
    let call := (assign key value).run.run before
    before.validate = .ok () ∧ call.2.validate = .ok () ∧
    ((∃ e, call = (.error e, before)) ∨
      ∃ next, call = (.ok (), next) ∧ Overridden key value before next) ∧
    (places.map (·.key) ++ beltKeys).Nodup ∧
    ∀ s t : Settings, (∀ p ∈ places, p.get s = p.get t) → s.belt = t.belt → s.tools = t.tools →
      s = t := by
  intro before call
  have hbefore : before.validate = .ok () := validate_heldAfter hs past
  refine ⟨hbefore, validate_assign hbefore key value, ?_, nodup_keys, fun _ _ => eq_of_places⟩
  rcases assign_cases before key value with ⟨next, hset, hcall⟩ | hrefused
  · exact .inr ⟨next, hcall, overridden_of_set hset⟩
  · exact .inl hrefused

theorem assign_atomic_belt :
    let s : Settings := { belt := some { referenceHeight := 0.5 } }
    let before := s.heldAfter [("playback.batch_size", "0"), ("color.mode", "Feed")]
    let after := s.heldAfter [("playback.batch_size", "0"), ("color.mode", "Feed"),
      ("machine.belt.angle_deg", " 45 ")]
    s.validate = .ok () ∧ before.playback.batchSize = 20000 ∧ before.color.mode = .feed ∧
      Overridden "machine.belt.angle_deg" " 45 " before after ∧
      after.belt = some { angle := 45.0, referenceHeight := 0.5 } ∧ after.validate = .ok () ∧
      ∃ e, (assign "voxel.cell_width" "-1").run.run after = (.error e, after) := by
  intro s before after
  have hs : s.validate = .ok () := by decide +kernel
  have hbatch : before.playback.batchSize = 20000 := by decide +kernel
  have hmode : before.color.mode = .feed := by decide +kernel
  have hbelt : after.belt = some { angle := 45.0, referenceHeight := 0.5 } := by decide +kernel
  have hok : ((assign "machine.belt.angle_deg" " 45 ").run.run before).1 = .ok () := by
    decide +kernel
  have hnot : ((assign "voxel.cell_width" "-1").run.run after).1 ≠ .ok () := by decide +kernel
  obtain ⟨-, hafter, hset, -⟩ := assign_atomic hs
    [("playback.batch_size", "0"), ("color.mode", "Feed")] "machine.belt.angle_deg" " 45 "
  obtain ⟨-, -, hcell, -⟩ := assign_atomic hafter [] "voxel.cell_width" "-1"
  refine ⟨hs, hbatch, hmode, ?_, hbelt, hafter, ?_⟩
  · rcases hset with ⟨e, he⟩ | ⟨next, hnext, hoverridden⟩
    · cases hok.symm.trans (congrArg Prod.fst he)
    · have hnext' : after = next := congrArg Prod.snd hnext
      rw [hnext']
      exact hoverridden
  · exact hcell.resolve_right fun ⟨_, hnext, _⟩ => hnot (congrArg Prod.fst hnext)

end Toolpath.Settings
