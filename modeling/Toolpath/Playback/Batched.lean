import Toolpath.Playback.Basic
import Toolpath.Segment.Store

/-! Playback in batches of a fixed size, all moved by one cursor. -/

namespace Toolpath

structure BatchedPlayback where
  batchSize : Nat
  batches : Array Playback
  deriving DecidableEq

namespace BatchedPlayback

def ofStore (settings : Settings) (tools : ToolTable) (store : Store) : BatchedPlayback :=
  let batchSize := max 1 settings.playback.batchSize
  { batchSize
    batches := ((store.batches batchSize).map fun b =>
      Playback.ofSegments settings tools b.2).toArray }

def advance (p : BatchedPlayback) (offset : Nat) : BatchedPlayback × AdvanceKind :=
  let moved := p.batches.map (·.advance offset)
  ({ p with batches := moved.map (·.1) },
    if moved.any (·.2 == .fullPass) then .fullPass else .incremental)

def tick (p : BatchedPlayback) : BatchedPlayback × Nat :=
  let ticked := p.batches.map (·.tick)
  ({ p with batches := ticked.map (·.1) }, ticked.foldl (fun n t => n + t.2) 0)

def forceRedraw (p : BatchedPlayback) : BatchedPlayback :=
  { p with batches := p.batches.map (·.forceRedraw) }

def revealed (p : BatchedPlayback) : Nat := p.batches.foldl (fun n b => n + b.revealed) 0

def locate (p : BatchedPlayback) (i : Nat) : Option (Playback × Nat) :=
  p.batches[i / p.batchSize]?.map fun b => (b, i % p.batchSize)

def state? (p : BatchedPlayback) (i : Nat) : Option RevealState :=
  (p.locate i).bind fun (b, i) => b.state? i

def isRevealed (p : BatchedPlayback) (i : Nat) : Bool :=
  (p.locate i).any fun (b, i) => b.isRevealed i

def appearance (p : BatchedPlayback) (i : Nat) : Appearance :=
  match p.locate i with
  | some (b, i) => b.appearance i
  | none => .invisible

end BatchedPlayback
end Toolpath
