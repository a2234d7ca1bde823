import Toolpath.Document.Basic
import Toolpath.Decimal.Layout
import Toolpath.Text.Hex

/-! Writing documents as JSON text, on one line or indented by two spaces. -/

namespace Toolpath.Json

def escapeChar (c : Char) : String :=
  match c with
  | '"' => "\\\""
  | '\\' => "\\\\"
  | '\x08' => "\\b"
  | '\x0c' => "\\f"
  | '\n' => "\\n"
  | '\r' => "\\r"
  | '\t' => "\\t"
  | c => if c.toNat < 0x20 then "\\u" ++ Text.hexText 4 c.toNat else c.toString

def quote (s : String) : String := s.foldl (fun t c => t ++ escapeChar c) "\"" ++ "\""

structure Style where
  indented : Bool

namespace Style

def line (s : Style) (depth : Nat) : String :=
  if s.indented then "\n" ++ String.ofList (List.replicate (2 * depth) ' ') else ""

def colon (s : Style) : String := if s.indented then ": " else ":"

def enclose (s : Style) (depth : Nat) (left right : String) (parts : List String) : String :=
  if parts.isEmpty then left ++ right
  else
    left ++ s.line (depth + 1) ++ ("," ++ s.line (depth + 1)).intercalate parts ++ s.line depth
      ++ right

end Style

mutual

def writeAt (s : Style) (depth : Nat) : Document → String
  | .null | .unreadable => "null"
  | .bool b => if b then "true" else "false"
  | .int n => toString n
  | .float x => (Decimal.compact? x).getD "null"
  | .text t => quote t
  | .list ds => s.enclose depth "[" "]" (writeItems s (depth + 1) ds)
  | .table es => s.enclose depth "\x7b" "\x7d" (writeEntries s (depth + 1) es)

def writeItems (s : Style) (depth : Nat) : List Document → List String
  | [] => []
  | d :: ds => writeAt s depth d :: writeItems s depth ds

def writeEntries (s : Style) (depth : Nat) : List (String × Document) → List String
  | [] => []
  | (name, d) :: es => (quote name ++ s.colon ++ writeAt s depth d) :: writeEntries s depth es

end

def write (d : Document) : String := writeAt ⟨false⟩ 0 d

def writeIndented (d : Document) : String := writeAt ⟨true⟩ 0 d

end Toolpath.Json
