/-! Reading text from the front: a scan gives a value and the text that is left, or fails. -/

namespace Toolpath.Text

abbrev Scan := StateT (List Char) Option

namespace Scan

def peek : Scan (Option Char) := return (← get).head?

def expect (c : Char) : Scan Unit := do
  match ← get with
  | d :: rest => if c = d then set rest else failure
  | [] => failure

def one (p : Char → Bool) : Scan Char := do
  match ← get with
  | c :: rest => if p c then set rest; return c else failure
  | [] => failure

def word (w : String) : Scan Unit := do
  let cs ← get
  if w.toList.isPrefixOf cs then set (cs.drop w.length) else failure

def optional (w : String) : Scan Bool := do
  let cs ← get
  if w.toList.isPrefixOf cs then set (cs.drop w.length); return true
  else return false

def takeWhile (p : Char → Bool) : Scan (List Char) := do
  let cs ← get
  set (cs.dropWhile p)
  return cs.takeWhile p

def skipWhile (p : Char → Bool) : Scan Unit := modify (·.dropWhile p)

def someWhile (p : Char → Bool) : Scan (List Char) := do
  let cs ← takeWhile p
  if cs.isEmpty then failure else return cs

end Scan
end Toolpath.Text
