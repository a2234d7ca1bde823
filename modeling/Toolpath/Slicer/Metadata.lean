import Toolpath.Decimal.Numeral
import Toolpath.Text.Blank
import Toolpath.Text.Split

/-! Nozzle diameters, which slicers write near the end of a program. -/

namespace Toolpath.Metadata

def window : Nat := 350

def keyword : List Char := "nozzle_diameter".toList

def isCandidate (line : List Char) : Bool := Text.hasInfix keyword line

/-- The diameters on one line: the positive numbers between commas after the first `=`. -/
def diametersOn (line : List Char) : List Float :=
  match Text.splitOnce? '=' line with
  | some (_, values) =>
    ((Text.splitOn ',' values).filterMap fun v => Numeral.float? (Text.trim v)).filter (0.0 < ·)
  | none => []

def scan (lines : List (List Char)) : List Float :=
  lines.foldl (fun found line =>
    if isCandidate line then
      let diameters := diametersOn line
      if diameters.isEmpty then found else diameters
    else found) []

def scanProgram (text : List Char) : List Float :=
  let lines := Text.lines text
  scan (lines.drop (lines.length - window))

end Toolpath.Metadata
