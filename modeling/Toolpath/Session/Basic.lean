import Toolpath.Motion.Machine
import Toolpath.Session.Host
import Toolpath.Session.LineBuffer
import Toolpath.Slicer.Metadata

/-! Sessions: programs that arrive in pieces and are interpreted step by step. -/

namespace Toolpath

structure Interpretation where
  store : Store
  tools : ToolTable
  diagnostics : Diagnostics
  style : SlicerStyle

structure Session where
  settings : Settings
  host : Host := {}
  buffer : LineBuffer := {}
  expected : Option Nat := none
  style : SlicerStyle := .generic
  /-- There is no machine before the head of the program has arrived. -/
  run : Option Run := none
  sawContent : Bool := false
  candidates : List (Nat × List Char) := []
  complete : Bool := false

inductive Outcome
  | pending (progress : Float32)
  | complete
  deriving DecidableEq

namespace Session

def push (s : Session) (chunk : List Char) : Session := { s with buffer := s.buffer.push chunk }

def finish (s : Session) : Session := { s with buffer := s.buffer.finish }

def cancel (s : Session) : Session :=
  { s with host := { s.host with token := s.host.token.cancel } }

def reset (s : Session) : Session :=
  { s with host := { s.host with token := s.host.token.reset } }

def isCancelled (s : Session) : Bool := s.host.token.cancelled

def progress (s : Session) : Float32 := s.buffer.progress s.expected

def store (s : Session) : Store := (s.run.map (·.store)).getD {}

def report (s : Session) (fraction : Float32) (phase : Phase) : Session :=
  { s with host := s.host.receive ⟨fraction, phase⟩ }

def start (s : Session) : Session × Except Fault Bool :=
  if s.run.isSome then (s, .ok true)
  else
    match s.buffer.head with
    | .awaited => (s, .ok false)
    | .blank => (s, .error .emptyInput)
    | .text head =>
      let style := SlicerStyle.detect head
      let s := { s with style }
      match Machine.ofSettings s.settings style with
      | .error e => (s, .error e)
      | .ok machine => ({ s with run := some { machine } }.report 0.0 .loading, .ok true)

def accept (s : Session) (line : List Char) : Session :=
  let stamp := s.buffer.stamp
  { s with
    run := s.run.map (·.feed line stamp)
    sawContent := s.sawContent || !Text.isBlankLine line
    candidates :=
      if Metadata.isCandidate line then s.candidates ++ [(stamp.line, line)] else s.candidates }

def disturb (s : Session) (f : CancelToken → CancelToken) : Session :=
  { s with host := { s.host with token := f s.host.token } }

/-- Reads up to `limit` lines after the `done` ones that this step has read. -/
def readLines (b : Budget) : Nat → Nat → Session → Session × Bool
  | 0, _, s => (s, false)
  | limit + 1, done, s =>
    let s := s.disturb (b.meanwhile done)
    if s.isCancelled then (s, true)
    else
      match s.buffer.next? with
      | none => (s, false)
      | some (line, buffer) =>
        let s := { s with buffer }.accept line
        if b.isOver (done + 1) then (s, false) else readLines b limit (done + 1) s

def applyMetadata (s : Session) : Session :=
  let recent := s.candidates.filter fun c => s.buffer.lineNumber - Metadata.window < c.1
  { s with candidates := [], run := s.run.map (·.setDiameters (Metadata.scan (recent.map (·.2)))) }

def conclude (s : Session) : Session × Except Fault Outcome :=
  if s.sawContent then
    ({ s.applyMetadata with complete := true }.report 1.0 .complete, .ok .complete)
  else (s, .error .emptyInput)

/-- A text has no more lines than characters. -/
def limit (s : Session) (b : Budget) : Nat := b.lines.getD (s.buffer.unread.length + 1)

def compact (s : Session) : Session := { s with buffer := s.buffer.compact }

def resume (s : Session) (b : Budget) : Session × Except Fault Outcome :=
  match readLines b (s.limit b) 0 s with
  | (s, true) => (s.compact, .error .cancelled)
  | (s, false) =>
    let s := s.compact
    if s.buffer.isDrained then s.conclude
    else (s.report s.progress .loading, .ok (.pending s.progress))

/-- What has been drawn stays when a step fails. -/
def step (s : Session) (b : Budget) : Session × Except Fault Outcome :=
  if s.complete then (s, .ok .complete)
  else if s.isCancelled then (s, .error .cancelled)
  else
    match s.start with
    | (s, .error e) => (s, .error e)
    | (s, .ok false) => (s, .ok (.pending s.progress))
    | (s, .ok true) => s.resume b

/-- A result stands only if it was reached without an overflow: of the points of an arc, or of the
lines, which are counted in 32 bits. -/
def overflowed (s : Session) : Bool :=
  s.run.any (·.machine.overflowed) || LineBuffer.lineLimit ≤ s.buffer.lineNumber

def checked {α : Type} (r : Session × α) : Option (Session × α) :=
  if r.1.overflowed then none else some r

def step? (s : Session) (b : Budget) : Option (Session × Except Fault Outcome) := checked (s.step b)

def drive (b : Budget) : Nat → Session → Session × Except Fault Outcome
  | 0, s => s.step b
  | fuel + 1, s =>
    match s.step b with
    | (s, .ok (.pending _)) => drive b fuel s
    | done => done

def runToEnd (s : Session) : Session × Except Fault Outcome :=
  drive .unlimited s.buffer.unread.length s.finish

def runToEnd? (s : Session) : Option (Session × Except Fault Outcome) := checked s.runToEnd

def output (s : Session) : Interpretation :=
  match s.run with
  | some r => ⟨r.store, r.machine.tools, r.machine.diagnostics, s.style⟩
  | none => ⟨{}, s.settings.toolTable, {}, s.style⟩

def summary (s : Session) : String :=
  "ParseSession \x7b received: " ++ toString s.buffer.received
    ++ ", consumed: " ++ toString s.buffer.consumed
    ++ ", line_number: " ++ toString s.buffer.lineNumber
    ++ ", segments: " ++ toString s.store.size
    ++ ", slicer: " ++ s.style.key
    ++ ", complete: " ++ (if s.complete then "true" else "false") ++ " \x7d"

end Session

def Interpretation.ofText (settings : Settings) (text : List Char) : Except Fault Interpretation :=
  let session : Session := { settings }
  match (session.push text).runToEnd with
  | (s, .ok _) => .ok s.output
  | (_, .error e) => .error e

def Interpretation.ofText? (settings : Settings) (text : List Char) :
    Option (Except Fault Interpretation) :=
  let session : Session := { settings }
  (session.push text).runToEnd?.map fun r => r.2.map fun _ => r.1.output

end Toolpath
