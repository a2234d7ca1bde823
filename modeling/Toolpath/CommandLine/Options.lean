import Toolpath.Decimal.Numeral
import Toolpath.Segment.Basic
import Toolpath.Text.Split

/-! The options of the command line. Options may come in any order, in a long or a short form, with
their value behind a `=` or as the argument that follows. -/

namespace Toolpath.CommandLine

structure Options where
  file : Option String := none
  config : Option String := none
  overrides : List String := []
  offset : Option Nat := none
  voxels : Bool := false
  json : Bool := false
  verbose : Bool := false
  deriving DecidableEq, Repr

inductive Halt
  | help
  | version
  | rejected
  deriving DecidableEq, Repr

inductive Flag
  | voxels
  | json
  | verbose
  | help
  | version
  deriving DecidableEq, Repr

inductive Valued
  | config
  | override
  | offset
  deriving DecidableEq, Repr

inductive Switch
  | flag (f : Flag)
  | valued (v : Valued)
  deriving DecidableEq, Repr

def Switch.ofLong? : String → Option Switch
  | "config" => some (.valued .config)
  | "set" => some (.valued .override)
  | "at" => some (.valued .offset)
  | "voxels" => some (.flag .voxels)
  | "json" => some (.flag .json)
  | "verbose" => some (.flag .verbose)
  | "help" => some (.flag .help)
  | "version" => some (.flag .version)
  | _ => none

def Switch.ofShort? : Char → Option Switch
  | 'c' => some (.valued .config)
  | 'v' => some (.flag .verbose)
  | 'h' => some (.flag .help)
  | 'V' => some (.flag .version)
  | _ => none

namespace Options

def setFlag (o : Options) : Flag → Except Halt Options
  | .voxels => if o.voxels then .error .rejected else .ok { o with voxels := true }
  | .json => if o.json then .error .rejected else .ok { o with json := true }
  | .verbose => if o.verbose then .error .rejected else .ok { o with verbose := true }
  | .help => .error .help
  | .version => .error .version

def setValue (o : Options) (value : String) : Valued → Except Halt Options
  | .config =>
    if o.config.isSome || value.isEmpty then .error .rejected
    else .ok { o with config := some value }
  | .override => .ok { o with overrides := o.overrides ++ [value] }
  | .offset =>
    match o.offset, Numeral.bounded? Stamp.maxOffset value.toList with
    | none, some n => .ok { o with offset := some n }
    | _, _ => .error .rejected

def setFile (o : Options) (path : String) : Except Halt Options :=
  if o.file.isSome || path.isEmpty then .error .rejected else .ok { o with file := some path }

def isValue (arg : String) : Bool := !"-".isPrefixOf arg || arg == "-"

def takeValue (v : Valued) (attached : Option (List Char)) (rest : List String) (o : Options) :
    Except Halt (Options × List String) :=
  match attached, rest with
  | some value, _ => (o.setValue (String.ofList value) v).map (·, rest)
  | none, arg :: rest =>
    if isValue arg then (o.setValue arg v).map (·, rest) else .error .rejected
  | none, [] => .error .rejected

def readLong (text : List Char) (rest : List String) (o : Options) :
    Except Halt (Options × List String) :=
  let (name, attached) := match Text.splitOnce? '=' text with
    | some (name, value) => (name, some value)
    | none => (text, none)
  match Switch.ofLong? (String.ofList name), attached with
  | some (.valued v), attached => takeValue v attached rest o
  | some (.flag f), none => (o.setFlag f).map (·, rest)
  | some (.flag _), some _ | none, _ => .error .rejected

def attachedValue : List Char → Option (List Char)
  | [] => none
  | '=' :: value => some value
  | value => some value

/-- Short options that share one dash; the first one with a value takes all that follows. -/
def readShort (rest : List String) : List Char → Options → Except Halt (Options × List String)
  | [], o => .ok (o, rest)
  | c :: cs, o =>
    match Switch.ofShort? c with
    | some (.flag f) =>
      match o.setFlag f with
      | .ok o => readShort rest cs o
      | .error e => .error e
    | some (.valued v) => takeValue v (attachedValue cs) rest o
    | none => .error .rejected

def readArgument (arg : String) (rest : List String) (o : Options) :
    Except Halt (Options × List String) :=
  match arg.toList with
  | '-' :: '-' :: name => readLong name rest o
  | '-' :: c :: cs => readShort rest (c :: cs) o
  | _ => (o.setFile arg).map (·, rest)

/-- Each step takes an argument, so their number is fuel enough. -/
def readAll : Nat → List String → Options → Except Halt Options
  | _, [], o => .ok o
  | 0, _, _ => .error .rejected
  | fuel + 1, arg :: rest, o =>
    if arg = "--" then rest.foldlM setFile o
    else
      match readArgument arg rest o with
      | .ok (o, rest) => readAll fuel rest o
      | .error e => .error e

end Options
end Toolpath.CommandLine
