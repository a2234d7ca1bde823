import Toolpath.Toml.Number
import Toolpath.Toml.Tree

/-! Reading TOML text into documents. -/

namespace Toolpath.Toml

open Text Text.Scan

mutual

/-- Each step takes at least one character, so the length of the text is fuel enough. -/
def value : Nat → Nat → Scan Document
  | 0, _ => failure
  | fuel + 1, depth => do
    match ← peek with
    | some '"' => return .text (← anyString '"')
    | some '\'' => return .text (← anyString '\'')
    | some '[' =>
      if depth = 0 then failure
      expect '['
      return .list (← items fuel (depth - 1))
    | some '{' =>
      if depth = 0 then failure
      expect '{'
      skipSpace
      if ← optional "\x7d" then return .table []
      match Entries.insertAll [] (← pairs fuel (depth - 1)) with
      | some es => return .table (entriesToDocument es)
      | none => failure
    | some 't' => word "true"; return .bool true
    | some 'f' => word "false"; return .bool false
    | _ => numberOrDate

def items : Nat → Nat → Scan (List Document)
  | 0, _ => failure
  | fuel + 1, depth => do
    skipLines fuel
    if ← optional "]" then return []
    let item ← value fuel depth
    skipLines fuel
    if ← optional "," then return item :: (← items fuel depth)
    expect ']'
    return [item]

def pairs : Nat → Nat → Scan (List (List String × Document))
  | 0, _ => failure
  | fuel + 1, depth => do
    let path ← key
    expect '='
    skipSpace
    let item ← value fuel depth
    skipSpace
    if ← optional "," then return (path, item) :: (← pairs fuel depth)
    expect '}'
    return [(path, item)]

end

inductive Expression
  | entry (path : List String) (d : Document)
  | table (path : List String)
  | series (path : List String)

def expression (fuel : Nat) : Scan Expression := do
  if ← optional "[[" then
    let path ← key
    word "]]"
    trailing
    return .series path
  else if ← optional "[" then
    let path ← key
    expect ']'
    trailing
    return .table path
  else
    let path ← key
    expect '='
    skipSpace
    let d ← value fuel (maxDepth - 1)
    trailing
    return .entry path d

def expressions : Nat → Scan (List Expression)
  | 0 => failure
  | fuel + 1 => do
    skipLines fuel
    if (← get).isEmpty then return []
    let e ← expression fuel
    return e :: (← expressions fuel)

structure Part where
  header : Option Expression
  entries : List (List String × Document)

def parts (es : List Expression) : List Part :=
  let (entries, parts) := es.foldr
    (fun e (entries, parts) => match e with
      | .entry path d => ((path, d) :: entries, parts)
      | header => ([], ⟨some header, entries⟩ :: parts)) ([], [])
  ⟨none, entries⟩ :: parts

def Part.addTo (es : Entries) (p : Part) : Option Entries :=
  match p.header with
  | some (.table path) => es.openTable path p.entries
  | some (.series path) => es.openSeries path p.entries
  | some (.entry ..) | none => es.insertAll p.entries

def byteOrderMark : Char := Char.ofNat 0xFEFF

def read? (text : List Char) : Option Document := do
  let text := if text.head? = some byteOrderMark then text.drop 1 else text
  let (es, _) ← expressions (text.length + 2) text
  let root ← (parts es).foldlM Part.addTo []
  return .table (entriesToDocument root)

end Toolpath.Toml
