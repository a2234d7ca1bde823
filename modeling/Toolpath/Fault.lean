import Toolpath.Geometry.Error

/-! What can go wrong while a program is interpreted. Only cancellation and empty input end a
session; everything else is counted and stepped over. -/

namespace Toolpath

inductive ParseProblem
  | malformedNumber (word : String)
  | unsupportedCode (code : Nat)
  | other (reason : String)
  deriving DecidableEq, Repr

namespace ParseProblem

def codeText (code : Nat) : String :=
  toString (code / 10) ++ if code % 10 == 0 then "" else "." ++ toString (code % 10)

def reason : ParseProblem → String
  | malformedNumber word => "malformed number in '" ++ word ++ "'"
  | unsupportedCode code => "unsupported G" ++ codeText code
  | other reason => reason

end ParseProblem

inductive Misconfiguration
  | toolAdjusted (requested : Int) (selected : Nat)
  | noWorkplace (number : Int)
  | arc (error : GeometryError Float)
  | cellSize (width height : Float)
  | other (reason : String)
  deriving DecidableEq

namespace Misconfiguration

def reason : Misconfiguration → String
  | toolAdjusted requested selected =>
    "tool " ++ toString requested ++ " resolved to " ++ toString selected
  | noWorkplace number => "workplace P" ++ toString number ++ " does not exist"
  | arc error => error.message
  | cellSize width height =>
    "voxel cell size must be positive, got " ++ Decimal.plain width ++ "x" ++ Decimal.plain height
  | other reason => reason

end Misconfiguration

inductive Fault
  | recoverable (line : Nat) (problem : ParseProblem)
  | degenerate (line : Nat) (error : GeometryError Float)
  | misconfigured (problem : Misconfiguration)
  | cancelled
  | emptyInput
  deriving DecidableEq

namespace Fault

def message : Fault → String
  | recoverable line problem =>
    "Recoverable parse problem at line " ++ toString line ++ ": " ++ problem.reason
  | degenerate line error => "Degenerate geometry at line " ++ toString line ++ ": " ++ error.message
  | misconfigured problem => "Invalid configuration: " ++ problem.reason
  | cancelled => "Operation cancelled"
  | emptyInput => "No instruction data to interpret"

def isFatal : Fault → Bool
  | cancelled | emptyInput => true
  | _ => false

end Fault

inductive Error
  | geometry (error : GeometryError Float)
  | fault (fault : Fault)
  | other (reason : String)

namespace Error

def message : Error → String
  | geometry error => error.message
  | fault f => f.message
  | other reason => reason

def isCancelled : Error → Bool
  | fault .cancelled => true
  | _ => false

end Error

structure CancelToken where
  cancelled : Bool := false
  deriving DecidableEq, Repr

namespace CancelToken

def cancel (_ : CancelToken) : CancelToken := ⟨true⟩
def reset (_ : CancelToken) : CancelToken := ⟨false⟩

end CancelToken
end Toolpath
