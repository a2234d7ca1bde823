import Toolpath.Decimal.Layout
import Toolpath.Settings.Basic

/-! Which settings are in range. -/

namespace Toolpath

inductive SettingsError
  | unsupportedFormat (extension : String)
  | outOfRange (key value : String)
  | invalidColor (key value : String)
  | unknownKey (key : String)
  | invalidValue (key value : String)
  deriving DecidableEq, Repr

def SettingsError.message : SettingsError → String
  | .unsupportedFormat extension => "Unsupported config format: " ++ extension
  | .outOfRange key value => "Value out of range for '" ++ key ++ "': " ++ value
  | .invalidColor key value => "Invalid color for '" ++ key ++ "': " ++ value
  | .unknownKey key => "Unknown configuration key: " ++ key
  | .invalidValue key value => "Invalid value for '" ++ key ++ "': " ++ value

namespace Settings

def isFraction (x : Float32) : Bool := 0.0 ≤ x && x ≤ 1.0

def toolComplaint? (i : Nat) : List Tool → Option SettingsError
  | [] => none
  | t :: ts =>
    if t.diameter ≤ 0.0 then
      some (.outOfRange ("tools[" ++ toString i ++ "].diameter") (Decimal.plain t.diameter))
    else toolComplaint? (i + 1) ts

def complaint? (s : Settings) : Option SettingsError :=
  if s.parser.arcSegmentLength ≤ 0.0 then
    some (.outOfRange "parser.arc_segment_length" (Decimal.plain s.parser.arcSegmentLength))
  else if s.parser.minSegmentLength < 0.0 then
    some (.outOfRange "parser.min_segment_length" (Decimal.plain s.parser.minSegmentLength))
  else if s.color.maxFeedRate ≤ s.color.minFeedRate then
    some (.outOfRange "color.min_feed_rate"
      (Decimal.plain s.color.minFeedRate ++ " (must be below max_feed_rate "
        ++ Decimal.plain s.color.maxFeedRate ++ ")"))
  else if !isFraction s.color.darkenDelta then
    some (.outOfRange "color.darken_delta" (Decimal.plain32 s.color.darkenDelta))
  else if s.playback.batchSize == 0 then
    some (.outOfRange "playback.batch_size" "0")
  else if let some alpha := s.playback.hiddenTranslucency.filter (!isFraction ·) then
    some (.outOfRange "playback.hidden_translucency" (Decimal.plain32 alpha))
  else if let some belt := s.belt.filter fun b => b.angle ≤ 0.0 || 90.0 ≤ b.angle then
    some (.outOfRange "machine.belt.angle_deg" (Decimal.plain belt.angle))
  else if s.voxel.cellWidth ≤ 0.0 || s.voxel.cellHeight ≤ 0.0 then
    some (.outOfRange "voxel.cell_width/cell_height"
      (Decimal.plain s.voxel.cellWidth ++ "x" ++ Decimal.plain s.voxel.cellHeight))
  else toolComplaint? 0 s.tools

def validate (s : Settings) : Except SettingsError Unit :=
  match s.complaint? with
  | some e => .error e
  | none => .ok ()

end Settings
end Toolpath
