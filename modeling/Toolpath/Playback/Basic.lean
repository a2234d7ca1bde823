import Toolpath.Bisect
import Toolpath.Fill
import Toolpath.Playback.Appearance
import Toolpath.Playback.Cursor

/-! Playback of a run of segments: those up to the cursor are revealed, at first highlighted, and
some ahead of it are shown early. -/

namespace Toolpath

structure Clip where
  offset : Nat
  role : Role
  color : Color
  deriving DecidableEq

def Clip.ofSegment (tools : ToolTable) (s : Segment) : Clip := ⟨s.offset, .ofSegment s tools, s.color⟩

structure Playback where
  look : Look
  clips : Array Clip
  states : Array RevealState
  /-- Highlighted positions. Some may be listed twice, or no longer be highlighted. -/
  animating : List Nat := []
  cursor : Cursor := {}
  revealed : Nat := 0
  lookAheadEnd : Nat := 0
  deriving DecidableEq

namespace Playback

def ofClips (look : Look) (clips : Array Clip) : Playback where
  look
  clips
  states := Array.replicate clips.size .hidden

def ofSegments (settings : Settings) (tools : ToolTable) (segments : List Segment) : Playback :=
  ofClips (.ofSettings settings) (segments.map (Clip.ofSegment tools)).toArray

def size (p : Playback) : Nat := p.states.size

def isEmpty (p : Playback) : Bool := p.states.isEmpty

def state? (p : Playback) (i : Nat) : Option RevealState := p.states[i]?

def isRevealed (p : Playback) (i : Nat) : Bool := p.states[i]?.any (·.isRevealed)

def role? (p : Playback) (i : Nat) : Option Role := p.clips[i]?.map (·.role)

def forceRedraw (p : Playback) : Playback := { p with cursor := p.cursor.forceRedraw }

def partition (p : Playback) (offset : Nat) : Nat :=
  partitionPoint (fun c : Clip => c.offset ≤ offset) p.clips

def horizon (p : Playback) (offset : Nat) : Nat :=
  min (offset + p.look.playing.lookAhead) Stamp.maxOffset

def aheadState (lookAheadEnd i : Nat) : RevealState :=
  if i < lookAheadEnd then .lookAhead else .hidden

def restState (revealed lookAheadEnd i : Nat) : RevealState :=
  if i < revealed then .complete else aheadState lookAheadEnd i

def fullPass (p : Playback) (offset : Nat) : Playback :=
  let revealed := p.partition offset
  let lookAheadEnd := p.partition (p.horizon offset)
  { p with
    states := p.states.mapIdx fun i _ => restState revealed lookAheadEnd i
    animating := []
    cursor := .moveTo offset
    revealed
    lookAheadEnd }

def animates (p : Playback) (i : Nat) : Bool :=
  p.look.playing.highlightTicks != 0 && p.role? i != some .travel

def freshState (p : Playback) (i : Nat) : RevealState :=
  if p.animates i then .highlight p.look.playing.highlightTicks else .complete

def incremental (p : Playback) (offset : Nat) : Playback :=
  let revealed := p.partition offset
  let lookAheadEnd := p.partition (p.horizon offset)
  let fresh := (List.range' p.revealed (revealed - p.revealed)).filter p.animates
  { p with
    states := fillRange (aheadState lookAheadEnd) revealed (max lookAheadEnd p.lookAheadEnd)
      (fillRange p.freshState p.revealed revealed p.states)
    animating := p.animating ++ fresh
    cursor := .moveTo offset
    revealed
    lookAheadEnd }

def advance (p : Playback) (offset : Nat) : Playback × AdvanceKind :=
  let kind := p.cursor.kind p.look.playing.scrubDistance offset
  match kind with
  | .fullPass => (p.fullPass offset, kind)
  | .incremental => (p.incremental offset, kind)

def dropRepeats : List Nat → List Nat
  | [] => []
  | [i] => [i]
  | i :: j :: rest => if i = j then dropRepeats (j :: rest) else i :: dropRepeats (j :: rest)

def tick (p : Playback) : Playback × Nat :=
  let live := dropRepeats (p.animating.mergeSort (· ≤ ·))
  let states := live.foldl (fun states i => states.modify i RevealState.countDown) p.states
  let animating := live.filter fun i => states[i]?.any (·.isHighlight)
  ({ p with states, animating }, animating.length)

def appearance (p : Playback) (i : Nat) : Appearance :=
  match p.states[i]?, p.clips[i]? with
  | some state, some clip => p.look.appearance clip.color state clip.role
  | _, _ => .invisible

end Playback
end Toolpath
