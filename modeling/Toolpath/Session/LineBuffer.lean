import Toolpath.Segment.Basic
import Toolpath.Text.Blank
import Toolpath.Text.Split

/-! Text that arrives in pieces and is read line by line. -/

namespace Toolpath

structure LineBuffer where
  unread : List Char := []
  /-- How many bytes the buffer still holds of what has been read. -/
  cursor : Nat := 0
  /-- How many bytes it has dropped. -/
  base : Nat := 0
  received : Nat := 0
  lineNumber : Nat := 0
  finished : Bool := false
  deriving DecidableEq

namespace LineBuffer

/-- Lines are counted without a bound; `Session.overflowed` tells when 32 bits do not hold them. -/
def lineLimit : Nat := 1 <<< 32

def push (b : LineBuffer) (chunk : List Char) : LineBuffer :=
  { b with unread := b.unread ++ chunk, received := b.received + Text.byteSize chunk }

def finish (b : LineBuffer) : LineBuffer := { b with finished := true }

def consumed (b : LineBuffer) : Nat := b.base + b.cursor

def stamp (b : LineBuffer) : Stamp := ⟨b.lineNumber, b.consumed⟩

def isDrained (b : LineBuffer) : Bool := b.finished && b.unread.isEmpty

def skip (b : LineBuffer) (bytes : Nat) (rest : List Char) : LineBuffer :=
  { b with unread := rest, cursor := b.cursor + bytes, lineNumber := b.lineNumber + 1 }

def compact (b : LineBuffer) : LineBuffer := { b with cursor := 0, base := b.base + b.cursor }

/-- Text without a newline is a line when no more will arrive. -/
def next? (b : LineBuffer) : Option (List Char × LineBuffer) :=
  match Text.splitOnce? '\n' b.unread with
  | some (line, rest) => some (line, b.skip (Text.byteSize line + 1) rest)
  | none =>
    if b.finished && !b.unread.isEmpty then
      some (b.unread, b.skip (Text.byteSize b.unread) [])
    else none

/-- Lines are counted from one. -/
def upToLine? : Nat → List Char → Option (List Char)
  | 0, _ => some []
  | _, [] => none
  | n + 1, c :: cs =>
    if c = '\n' then if n = 0 then some [] else (upToLine? n cs).map (c :: ·)
    else (upToLine? (n + 1) cs).map (c :: ·)

def headLines : Nat := 200

inductive Head
  | awaited
  | blank
  | text (cs : List Char)

def head (b : LineBuffer) : Head :=
  match upToLine? headLines b.unread with
  | some cs => .text cs
  | none =>
    if !b.finished then .awaited
    else if Text.isBlankLine b.unread then .blank
    else .text b.unread

/-- The part of the bytes expected, or of those received if there are more. -/
def progress (b : LineBuffer) (expected : Option Nat) : Float32 :=
  let total := max (expected.getD b.received) b.received
  if total = 0 then 0.0
  else
    let fraction := Float.ofNat b.consumed / Float.ofNat total
    (if 1.0 < fraction then 1.0 else fraction).toFloat32

end LineBuffer
end Toolpath
