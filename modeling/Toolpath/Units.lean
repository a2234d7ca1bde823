import Toolpath.Text.Case

/-! Units of length. All lengths inside are millimetres. -/

namespace Toolpath

def mmPerInch : Float := 25.4

inductive Units
  | millimeters
  | inches
  deriving DecidableEq, Repr, Inhabited

namespace Units

def toMm : Units → Float → Float
  | millimeters, x => x
  | inches, x => x * mmPerInch

def symbol : Units → String
  | millimeters => "mm"
  | inches => "in"

def name : Units → String
  | millimeters => "millimeters"
  | inches => "inches"

def ofText? (text : String) : Option Units :=
  let word := String.ofList (Text.lower text.toList)
  if ["mm", "millimeters", "metric"].contains word then some millimeters
  else if ["in", "inch", "inches", "imperial"].contains word then some inches
  else none

def unknownMessage (text : String) : String := "Unknown units: " ++ text

end Units
end Toolpath
