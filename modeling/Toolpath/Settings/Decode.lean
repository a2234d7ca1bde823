import Toolpath.Document.Decode
import Toolpath.Settings.Override

/-! Reading settings and tools out of documents. Whatever is not given keeps its default; of a tool
only the kind may be missing. -/

namespace Toolpath

open Document

structure Tool.Draft where
  name : Option String := none
  color : Option Color := none
  diameter : Option Float := none
  kind : ToolKind := .additive

def Tool.Draft.finish? (t : Tool.Draft) : Option Tool := do
  return ⟨← t.name, ← t.color, ← t.diameter, t.kind⟩

namespace Tool

def fields (dialect : Dialect) : List (RecordField Draft) := [
  .of "name" asText? fun v t => { t with name := some v },
  .of "color" asColor? fun v t => { t with color := some v },
  .of "diameter" asFloat? fun v t => { t with diameter := some v },
  .of "kind" (asName? dialect ToolKind.ofKey?) fun v t => { t with kind := v }]

def ofDocument? (dialect : Dialect) (d : Document) : Option Tool := do
  (← asRecord? dialect (fields dialect) {} d).finish?

end Tool

namespace Settings

def parserFields : List (RecordField Parsing) := [
  .of "absolute_by_default" asBool? fun v s => { s with absoluteByDefault := v },
  .of "arc_segment_length" asFloat? fun v s => { s with arcSegmentLength := v },
  .of "arc_radius_fixup" asBool? fun v s => { s with arcRadiusFixup := v },
  .of "working_moves_deposit" asBool? fun v s => { s with workingMovesDeposit := v },
  .of "render_travels" asBool? fun v s => { s with renderTravels := v },
  .of "min_segment_length" asFloat? fun v s => { s with minSegmentLength := v },
  .of "perimeter_only" asBool? fun v s => { s with perimeterOnly := v }]

def colorFields (dialect : Dialect) : List (RecordField Coloring) := [
  .of "mode" (asName? dialect ColorMode.ofName?) fun v s => { s with mode := v },
  .of "min_feed_rate" asFloat? fun v s => { s with minFeedRate := v },
  .of "max_feed_rate" asFloat? fun v s => { s with maxFeedRate := v },
  .of "min_feed_color" asColor? fun v s => { s with minFeedColor := v },
  .of "max_feed_color" asColor? fun v s => { s with maxFeedColor := v },
  .of "progress_color" asColor? fun v s => { s with progressColor := v },
  .of "travel_color" asColor? fun v s => { s with travelColor := v },
  .of "darken_delta" asFloat32? fun v s => { s with darkenDelta := v }]

def playbackFields : List (RecordField Playing) := [
  .of "scrub_distance" (asNat? maxWord) fun v s => { s with scrubDistance := v },
  .of "look_ahead" (asNat? maxWord) fun v s => { s with lookAhead := v },
  .of "highlight_ticks" (asNat? maxByte) fun v s => { s with highlightTicks := v },
  .of "batch_size" (asNat? maxWord) fun v s => { s with batchSize := v },
  .of "ephemeral_travels" asBool? fun v s => { s with ephemeralTravels := v },
  .of "hidden_translucency" (asOption? asFloat32?) fun v s => { s with hiddenTranslucency := v }]

def beltFields : List (RecordField Belt) := [
  .of "angle_deg" asFloat? fun v s => { s with angle := v },
  .of "reference_height" asFloat? fun v s => { s with referenceHeight := v }]

def machineFields (dialect : Dialect) : List (RecordField (Option Belt)) := [
  .of "belt" (asOption? (asRecord? dialect beltFields {})) fun v _ => v]

def voxelFields : List (RecordField Voxels) := [
  .of "enabled" asBool? fun v s => { s with enabled := v },
  .of "cell_width" asFloat? fun v s => { s with cellWidth := v },
  .of "cell_height" asFloat? fun v s => { s with cellHeight := v },
  .of "highlight_ticks" (asNat? maxByte) fun v s => { s with highlightTicks := v }]

def fields (dialect : Dialect) : List (RecordField Settings) := [
  .of "parser" (asRecord? dialect parserFields {}) fun v s => { s with parser := v },
  .of "color" (asRecord? dialect (colorFields dialect) {}) fun v s => { s with color := v },
  .of "playback" (asRecord? dialect playbackFields {}) fun v s => { s with playback := v },
  .of "machine" (asRecord? dialect (machineFields dialect) none) fun v s => { s with belt := v },
  .of "voxel" (asRecord? dialect voxelFields {}) fun v s => { s with voxel := v },
  .of "tools" (asList? (Tool.ofDocument? dialect)) fun v s => { s with tools := v }]

def ofDocument? (dialect : Dialect) : Document → Option Settings :=
  asRecord? dialect (fields dialect) {}

end Settings
end Toolpath
