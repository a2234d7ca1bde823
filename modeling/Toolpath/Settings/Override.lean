import Toolpath.Decimal.Numeral
import Toolpath.Settings.Validate
import Toolpath.Text.Blank

/-! Overrides: one setting changed by its key, with the value given as text. -/

namespace Toolpath.Settings

def maxByte : Nat := 0xFF
def maxWord : Nat := 0xFFFFFFFFFFFFFFFF

def readValue (read? : List Char → Option α) (key value : String) : Except SettingsError α :=
  match read? (Text.trim value.toList) with
  | some x => .ok x
  | none => .error (.invalidValue key value)

def readColor (key value : String) : Except SettingsError Color :=
  match Color.ofHex? value.toList with
  | some c => .ok c
  | none => .error (.invalidColor key value)

def readMode? (cs : List Char) : Option ColorMode := ColorMode.ofText? (String.ofList cs)

/-- A complaint quotes the value without the blanks around it. -/
def readTranslucency (key value : String) : Except SettingsError (Option Float32) :=
  let word := Text.trim value.toList
  if word = [] ∨ word = "none".toList then .ok none
  else (readValue Numeral.float32? key (String.ofList word)).map some

def setParser (p : Parsing) (key value : String) : Option (Except SettingsError Parsing) :=
  let flag := readValue Numeral.bool? key value
  let real := readValue Numeral.float? key value
  match key with
  | "parser.absolute_by_default" => some do return { p with absoluteByDefault := ← flag }
  | "parser.arc_segment_length" => some do return { p with arcSegmentLength := ← real }
  | "parser.arc_radius_fixup" => some do return { p with arcRadiusFixup := ← flag }
  | "parser.working_moves_deposit" => some do return { p with workingMovesDeposit := ← flag }
  | "parser.render_travels" => some do return { p with renderTravels := ← flag }
  | "parser.min_segment_length" => some do return { p with minSegmentLength := ← real }
  | "parser.perimeter_only" => some do return { p with perimeterOnly := ← flag }
  | _ => none

def setColor (c : Coloring) (key value : String) : Option (Except SettingsError Coloring) :=
  let real := readValue Numeral.float? key value
  let color := readColor key value
  match key with
  | "color.mode" => some do return { c with mode := ← readValue readMode? key value }
  | "color.min_feed_rate" => some do return { c with minFeedRate := ← real }
  | "color.max_feed_rate" => some do return { c with maxFeedRate := ← real }
  | "color.min_feed_color" => some do return { c with minFeedColor := ← color }
  | "color.max_feed_color" => some do return { c with maxFeedColor := ← color }
  | "color.progress_color" => some do return { c with progressColor := ← color }
  | "color.travel_color" => some do return { c with travelColor := ← color }
  | "color.darken_delta" =>
    some do return { c with darkenDelta := ← readValue Numeral.float32? key value }
  | _ => none

def setPlayback (p : Playing) (key value : String) : Option (Except SettingsError Playing) :=
  let word := readValue (Numeral.bounded? maxWord) key value
  match key with
  | "playback.scrub_distance" => some do return { p with scrubDistance := ← word }
  | "playback.look_ahead" => some do return { p with lookAhead := ← word }
  | "playback.highlight_ticks" =>
    some do return { p with highlightTicks := ← readValue (Numeral.bounded? maxByte) key value }
  | "playback.batch_size" => some do return { p with batchSize := ← word }
  | "playback.ephemeral_travels" =>
    some do return { p with ephemeralTravels := ← readValue Numeral.bool? key value }
  | "playback.hidden_translucency" =>
    some do return { p with hiddenTranslucency := ← readTranslucency key value }
  | _ => none

/-- The belt is switched on and off as a whole; an angle given without a belt makes one. -/
def setBelt (b : Option Belt) (key value : String) : Option (Except SettingsError (Option Belt)) :=
  match key with
  | "machine.belt" => some do
    let on ← readValue Numeral.bool? key value
    return if on then some (b.getD {}) else none
  | "machine.belt.angle_deg" =>
    some do return some { b.getD {} with angle := ← readValue Numeral.float? key value }
  | _ => none

def setVoxel (v : Voxels) (key value : String) : Option (Except SettingsError Voxels) :=
  let real := readValue Numeral.float? key value
  match key with
  | "voxel.enabled" => some do return { v with enabled := ← readValue Numeral.bool? key value }
  | "voxel.cell_width" => some do return { v with cellWidth := ← real }
  | "voxel.cell_height" => some do return { v with cellHeight := ← real }
  | "voxel.highlight_ticks" =>
    some do return { v with highlightTicks := ← readValue (Numeral.bounded? maxByte) key value }
  | _ => none

/-- Keys of different sections are distinct, so the order of the sections does not matter. -/
def replace (s : Settings) (key value : String) : Except SettingsError Settings :=
  if let some p := setParser s.parser key value then return { s with parser := ← p }
  else if let some c := setColor s.color key value then return { s with color := ← c }
  else if let some p := setPlayback s.playback key value then return { s with playback := ← p }
  else if let some b := setBelt s.belt key value then return { s with belt := ← b }
  else if let some v := setVoxel s.voxel key value then return { s with voxel := ← v }
  else .error (.unknownKey key)

def set (s : Settings) (key value : String) : Except SettingsError Settings := do
  let next ← s.replace key value
  next.validate
  return next

end Toolpath.Settings
