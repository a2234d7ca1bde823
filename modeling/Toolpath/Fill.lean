/-! Overwriting a range of an array. -/

namespace Toolpath

def fillFrom (f : Nat → α) : Nat → Nat → Array α → Array α
  | _, 0, items => items
  | lo, n + 1, items => fillFrom f (lo + 1) n (items.setIfInBounds lo (f lo))

def fillRange (f : Nat → α) (lo hi : Nat) (items : Array α) : Array α :=
  fillFrom f lo (hi - lo) items

end Toolpath
