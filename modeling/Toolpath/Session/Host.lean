import Toolpath.Fault

/-! The other side of a session: what it allows, and what it is told. -/

namespace Toolpath

inductive Phase
  | loading
  | complete
  deriving DecidableEq, Repr

namespace Phase

def text : Phase → String
  | loading => "Loading File..."
  | complete => "Complete"

end Phase

structure Report where
  fraction : Float32
  phase : Phase
  deriving DecidableEq

/-- A host may ask for cancellation at any time, also from inside a report. -/
structure Host where
  token : CancelToken := {}
  cancelAt : Option Nat := none
  reports : List Report := []
  deriving DecidableEq

def Host.receive (h : Host) (r : Report) : Host :=
  let reports := h.reports ++ [r]
  { h with
    reports
    token := if h.cancelAt = some reports.length then h.token.cancel else h.token }

structure Budget where
  lines : Option Nat := none
  expired : Nat → Bool := fun _ => false
  /-- What other threads do to the token after that many lines, before the next one is read. -/
  meanwhile : Nat → CancelToken → CancelToken := fun _ token => token

namespace Budget

def unlimited : Budget := {}

def standard : Budget := { lines := some 50000 }

def instant : Budget := { expired := fun _ => true }

def clockInterval : Nat := 256

def isOver (b : Budget) (done : Nat) : Bool := done % clockInterval == 0 && b.expired done

end Budget
end Toolpath
