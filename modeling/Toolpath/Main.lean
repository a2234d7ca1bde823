import Toolpath.CommandLine.Run

/-! The command-line program. -/

namespace Toolpath.CommandLine

/-- Some layers below give the number of an error with a minus sign. -/
def errorCode : IO.Error → Nat
  | .noFileOrDirectory _ code _ | .inappropriateType _ code _ | .invalidArgument _ code _
  | .otherError code _ => code.toInt32.toInt.natAbs
  | _ => 0

def readFile (path : String) : IO (Except FileError String) := do
  if path.contains '\x00' then return .error .nameHasNul
  try
    return .ok (← IO.FS.readFile path)
  catch e =>
    return .error ((FileError.ofCode? (errorCode e)).getD (.other (toString e)))

end Toolpath.CommandLine

open Toolpath

def main (args : List String) : IO UInt32 := do
  let some result ← CommandLine.run CommandLine.readFile args
    | IO.eprintln "error: the program asks for more than there is room for"
      return 101
  IO.print result.output
  if result.code = 2 then
    IO.eprintln "error: the arguments cannot be understood; try '--help'"
  else if !result.error.isEmpty then
    IO.eprintln result.error
  return UInt32.ofNat result.code
