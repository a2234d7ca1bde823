import Toolpath.Fault

/-! The problems met in a program: how many of each kind, and the first of them in full. -/

namespace Toolpath

structure Diagnostics where
  recoverable : Nat := 0
  degenerate : Nat := 0
  misconfigured : Nat := 0
  first : List Fault := []
  deriving DecidableEq

namespace Diagnostics

def kept : Nat := 32

def record (d : Diagnostics) (f : Fault) : Diagnostics :=
  let d := match f with
    | .recoverable .. => { d with recoverable := d.recoverable + 1 }
    | .degenerate .. => { d with degenerate := d.degenerate + 1 }
    | .misconfigured .. => { d with misconfigured := d.misconfigured + 1 }
    | .cancelled | .emptyInput => d
  if d.first.length < kept then { d with first := d.first ++ [f] } else d

def recordAll (d : Diagnostics) (fs : List Fault) : Diagnostics := fs.foldl record d

def total (d : Diagnostics) : Nat := d.recoverable + d.degenerate + d.misconfigured

def isClean (d : Diagnostics) : Bool := d.total == 0

end Diagnostics
end Toolpath
