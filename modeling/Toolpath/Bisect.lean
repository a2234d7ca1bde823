/-! Searching by halving. -/

namespace Toolpath

def bisectFrom (p : Nat → Bool) (size base : Nat) : Nat :=
  if 1 < size then
    let half := size / 2
    bisectFrom p (size - half) (if p (base + half) then base + half else base)
  else if size = 1 ∧ p base then base + 1
  else base
termination_by size

def bisect (p : Nat → Bool) (size : Nat) : Nat := bisectFrom p size 0

def partitionPoint (p : α → Bool) (items : Array α) : Nat :=
  bisect (fun i => items[i]?.any p) items.size

end Toolpath
