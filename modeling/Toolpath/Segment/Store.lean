import Toolpath.Bisect
import Toolpath.Segment.Basic

/-! All segments of a program in the order of their offsets, with summaries that are kept up to date
as segments arrive. -/

namespace Toolpath

structure Store where
  segments : Array Segment := #[]
  layers : Array Layer := #[]
  firstInstruction : Option Nat := none
  lastInstruction : Option Nat := none
  bounds : Option Bounds := none
  feedRange : Option (Float × Float) := none
  top : Option Float := none
  deriving DecidableEq

structure Location where
  line : Nat
  position : Point
  index : Nat
  deriving DecidableEq

/-- What is no number gives way to the other. Of zeros with different signs the second is taken. -/
def lesserNumber (a b : Float) : Float := if a < b || b.isNaN then a else b
def greaterNumber (a b : Float) : Float := if b < a || b.isNaN then a else b

namespace Store

def extendBounds (b : Option Bounds) (s : Segment) : Bounds :=
  ((b.getD (.ofPoint s.start)).extend s.start).extend s.stop

def extendFeed (range : Option (Float × Float)) (rate : Float) : Option (Float × Float) :=
  if 0.0 < rate then
    match range with
    | some (lo, hi) => some (lesserNumber lo rate, greaterNumber hi rate)
    | none => some (rate, rate)
  else range

def extendTop (top : Option Float) (s : Segment) : Option Float :=
  if s.depositing then
    let z := greaterNumber s.start.z s.stop.z
    some (match top with
      | some h => greaterNumber h z
      | none => z)
  else top

/-- The offset of a segment is not below that of the last one. -/
def push (st : Store) (s : Segment) : Store :=
  { st with
    segments := st.segments.push s
    bounds := some (extendBounds st.bounds s)
    feedRange := extendFeed st.feedRange s.feedRate
    top := extendTop st.top s }

def pushLayer (st : Store) (height : Float) (stamp : Stamp) : Store :=
  { st with layers := st.layers.push ⟨height, stamp, st.segments.size⟩ }

def noteInstruction (st : Store) (offset : Nat) : Store :=
  { st with
    firstInstruction := some (st.firstInstruction.getD offset)
    lastInstruction := some offset }

def size (st : Store) : Nat := st.segments.size

def isEmpty (st : Store) : Bool := st.segments.isEmpty

def minOffset (st : Store) : Option Nat := st.segments[0]?.map (·.offset)

def maxOffset (st : Store) : Option Nat := st.segments.back?.map (·.offset)

def depositingCount (st : Store) : Nat := st.segments.countP (·.depositing)

/-- Runs of `n + 1` segments, each with the index of its first one. -/
def batchesFrom (n index : Nat) (segments : List Segment) : List (Nat × List Segment) :=
  match segments with
  | [] => []
  | s :: rest =>
    (index, s :: rest.take n) :: batchesFrom n (index + n + 1) (rest.drop n)
termination_by segments.length
decreasing_by
  simp only [List.length_drop, List.length_cons]
  omega

/-- A size of zero counts as one. -/
def batches (st : Store) (size : Nat) : List (Nat × List Segment) :=
  batchesFrom (size - 1) 0 st.segments.toList

def partition (st : Store) (offset : Nat) : Nat :=
  partitionPoint (fun s : Segment => s.offset ≤ offset) st.segments

def locate (st : Store) (offset : Nat) : Option Location :=
  match st.partition offset with
  | 0 => none
  | k + 1 => st.segments[k]?.map fun s => ⟨s.stamp.line, s.stop, k⟩

def layerAt (st : Store) (offset : Nat) : Option Layer :=
  match partitionPoint (fun l : Layer => l.stamp.offset ≤ offset) st.layers with
  | 0 => none
  | k + 1 => st.layers[k]?

end Store
end Toolpath
