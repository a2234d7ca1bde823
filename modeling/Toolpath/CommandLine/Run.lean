import Toolpath.CommandLine.Options
import Toolpath.Settings.Load
import Toolpath.Summary

/-! Runs of the command line: what is written for which arguments and files. A run on a program that
overflows has no result. -/

namespace Toolpath.CommandLine

structure Failure where
  message : String
  causes : List String := []
  deriving DecidableEq, Repr

structure Result where
  code : Nat := 0
  output : String := ""
  error : String := ""
  deriving DecidableEq, Repr

namespace Failure

def spaces (n : Nat) : String := String.ofList (List.replicate n ' ')

def hanging (indent : Nat) (text : String) : String :=
  ("\n" ++ spaces indent).intercalate ((Text.splitOn '\n' text.toList).map String.ofList)

def numbered (n : Nat) (cause : String) : String :=
  let number := toString n
  "\n" ++ spaces (5 - number.length) ++ number ++ ": " ++ hanging 7 cause

def causesText : List String → String
  | [] => ""
  | [cause] => "\n\nCaused by:\n" ++ spaces 4 ++ hanging 4 cause
  | causes => "\n\nCaused by:" ++ String.join (causes.mapIdx numbered)

def text (f : Failure) : String := "Error: " ++ f.message ++ causesText f.causes

def ofFault (f : Fault) : Failure := ⟨f.message, []⟩

def loadCauses : LoadError → List String
  | .file e => [(LoadError.file e).message, e.message]
  | .settings e => [(LoadError.settings e).message, e.message]
  | e => [e.message]

end Failure

section

variable {m : Type → Type} [Monad m] (read : String → m (Except FileError String))

def loadSettings (path : Option String) : m (Except Failure Settings) :=
  match path with
  | none => return .ok {}
  | some path => do
    let loaded := match ← read path with
      | .ok text => Settings.ofFile path text
      | .error e => .error (.file e)
    match loaded with
    | .ok s => return .ok s
    | .error e => return .error ⟨"Failed to load config " ++ path, Failure.loadCauses e⟩

def applyOverride (s : Settings) (entry : String) : Except Failure Settings :=
  match Text.splitOnce? '=' entry.toList with
  | none => .error ⟨"Override '" ++ entry ++ "' is not KEY=VALUE", []⟩
  | some (key, value) =>
    match s.set (String.ofList (Text.trim key)) (String.ofList value) with
    | .ok s => .ok s
    | .error e => .error ⟨"Invalid override '" ++ entry ++ "'", [e.message]⟩

def enableVoxels (o : Options) (s : Settings) : Settings :=
  if o.voxels then { s with voxel.enabled := true } else s

def summarize (o : Options) (s : Settings) (program : Interpretation) :
    Option (Except Fault Summary) :=
  let offset := (o.offset.or program.store.maxOffset).getD 0
  let cursor := o.offset.map (CursorReport.ofProgram program s)
  if s.voxel.enabled then
    (VoxelGrid.build? program.store program.tools s.voxel).map fun built =>
      built.1.map fun grid => { program, cursor, voxels := some (.ofGrid grid offset) }
  else some (.ok { program, cursor })

def interpretText (o : Options) (s : Settings) (text : String) : Option (Except Fault Summary) :=
  match Interpretation.ofText? s text.toList with
  | some (.ok program) => summarize o s program
  | some (.error e) => some (.error e)
  | none => none

def present (o : Options) (s : Summary) : String := if o.json then s.json ++ "\n" else s.text

def runOptions (o : Options) (path : String) : m (Option (Except Failure String)) := do
  match ← loadSettings read o.config with
  | .error e => return some (.error e)
  | .ok s =>
    match o.overrides.foldlM applyOverride s with
    | .error e => return some (.error e)
    | .ok s =>
      let s := enableVoxels o s
      match ← read path with
      | .error e => return some (.error ⟨"Failed to read " ++ path, [e.message]⟩)
      | .ok text =>
        return (interpretText o s text).map fun
          | .ok summary => .ok (present o summary)
          | .error e => .error (Failure.ofFault e)

def versionText : String := "gcodeplay 0.4.0\n"

def helpText : String :=
  "Interpret G-code and report its playback timeline

Usage: gcodeplay [OPTIONS] <FILE>

Arguments:
  <FILE>  G-code program to interpret

Options:
  -c, --config <CONFIG>  Configuration file (.toml or .json)
      --set <KEY=VALUE>  Override a setting, e.g. `--set parser.arc_segment_length=0.5`
      --at <AT>          Report playback state at this stream offset
      --voxels           Build the voxel simulation
      --json             Print the summary as JSON
  -v, --verbose          Debug logging
  -h, --help             Print help
  -V, --version          Print version
"

def run (args : List String) : m (Option Result) := do
  match Options.readAll args.length args {} with
  | .error .help => return some { output := helpText }
  | .error .version => return some { output := versionText }
  | .error .rejected => return some { code := 2 }
  | .ok o =>
    match o.file with
    | none => return some { code := 2 }
    | some path =>
      return (← runOptions read o path).map fun
        | .ok output => { output }
        | .error e => { code := 1, error := e.text }

end

end Toolpath.CommandLine
