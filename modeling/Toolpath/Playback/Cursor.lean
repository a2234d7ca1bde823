/-! The cursor of a playback, and the rule for what counts as scrubbing. -/

namespace Toolpath

inductive AdvanceKind
  | incremental
  | fullPass
  deriving DecidableEq, Repr

def AdvanceKind.name : AdvanceKind → String
  | incremental => "Incremental"
  | fullPass => "FullPass"

structure Cursor where
  offset : Option Nat := none
  redraw : Bool := false
  deriving DecidableEq, Repr

namespace Cursor

def distance (a b : Nat) : Nat := (a - b) + (b - a)

/-- There is none at the first advance, after a request to redraw, and when the cursor jumps farther
than `scrub`. -/
def base? (c : Cursor) (scrub offset : Nat) : Option Nat :=
  c.offset.filter fun last => !c.redraw && distance last offset ≤ scrub

def kind (c : Cursor) (scrub offset : Nat) : AdvanceKind :=
  if (c.base? scrub offset).isSome then .incremental else .fullPass

def moveTo (offset : Nat) : Cursor := { offset := some offset }

def forceRedraw (c : Cursor) : Cursor := { c with redraw := true }

end Cursor
end Toolpath
