import Toolpath.Segment.Basic
import Toolpath.Settings.Basic

/-! How segments look while a program is played. -/

namespace Toolpath

inductive Role
  | additive
  | subtractive
  | travel
  deriving DecidableEq, Repr

namespace Role

def ofSegment (s : Segment) (tools : ToolTable) : Role :=
  if s.isTravel then travel
  else if (tools.get s.tool).isAdditive then additive
  else subtractive

def name : Role → String
  | additive => "Additive"
  | subtractive => "Subtractive"
  | travel => "Travel"

end Role

inductive RevealState
  | hidden
  | lookAhead
  | highlight (remaining : Nat)
  | complete
  deriving DecidableEq, Repr, Inhabited

namespace RevealState

def isRevealed : RevealState → Bool
  | highlight _ | complete => true
  | hidden | lookAhead => false

def isHighlight : RevealState → Bool
  | highlight _ => true
  | _ => false

def countDown : RevealState → RevealState
  | highlight n => if 1 < n then highlight (n - 1) else complete
  | state => state

end RevealState

structure Appearance where
  color : Color
  opacity : Float32
  deriving DecidableEq

namespace Appearance

def invisible : Appearance := ⟨.transparent, 0.0⟩

def solid (color : Color) : Appearance := ⟨color, 1.0⟩

def isVisible (a : Appearance) : Bool := 0.0 < a.opacity

def highlightOpacity (elapsed : Nat) : Float32 :=
  let opacity := 0.9 + 0.02 * Float32.ofNat elapsed
  if 1.0 < opacity then 1.0 else opacity

end Appearance

structure Look where
  playing : Settings.Playing
  progressColor : Color
  travelColor : Color
  deriving DecidableEq

namespace Look

def ofSettings (s : Settings) : Look := ⟨s.playback, s.color.progressColor, s.color.travelColor⟩

/-- Only additive segments can be seen ahead of the cursor; cuts vanish once they are done, and
travels unless they are to stay. -/
def appearance (l : Look) (color : Color) : RevealState → Role → Appearance
  | .hidden, .additive =>
    match l.playing.hiddenTranslucency with
    | some opacity => ⟨color, opacity⟩
    | none => .invisible
  | .lookAhead, .additive | .complete, .additive => .solid color
  | .hidden, _ | .lookAhead, _ | .complete, .subtractive => .invisible
  | .highlight remaining, role =>
    ⟨if role = .subtractive then .red else l.progressColor,
      Appearance.highlightOpacity (l.playing.highlightTicks - remaining)⟩
  | .complete, .travel =>
    if l.playing.ephemeralTravels then .invisible else .solid l.travelColor

end Look
end Toolpath
