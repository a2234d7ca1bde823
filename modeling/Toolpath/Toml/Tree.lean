import Toolpath.Document.Basic

/-! Tables under construction. A table remembers how it came to be, because that decides what may
still be added to it. -/

namespace Toolpath.Toml

inductive Origin
  | header
  /-- Passed through by the header of a table inside it. -/
  | implied
  /-- Passed through by a dotted key. -/
  | dotted
  deriving DecidableEq, Repr

/-- `series` is a list of tables that headers are still adding to, the latest first. -/
inductive Node
  | value (d : Document)
  | table (origin : Origin) (entries : List (String × Node))
  | series (tables : List (List (String × Node)))

abbrev Entries := List (String × Node)

namespace Entries

def put (es : Entries) (name : String) (n : Node) : Entries :=
  if (es.lookup name).isSome then es.map fun e => if e.1 == name then (name, n) else e
  else es ++ [(name, n)]

/-- Tables on the way that are missing are made. A dotted key does not enter those that have a
header. -/
def descend (dotted : Bool) (f : Origin → Entries → Option Entries) :
    List String → Origin → Entries → Option Entries
  | [], origin, es => f origin es
  | name :: path, _, es => do
    match es.lookup name with
    | none =>
      let origin := if dotted then .dotted else .implied
      return es.put name (.table origin (← descend dotted f path origin []))
    | some (.value _) => none
    | some (.table origin inner) =>
      if dotted && origin = .header then none
      else return es.put name (.table origin (← descend dotted f path origin inner))
    | some (.series []) => none
    | some (.series (last :: tables)) =>
      return es.put name (.series ((← descend dotted f path .header last) :: tables))

/-- A dotted key ends in a table made by dotted keys, and a simple key in any other. -/
def insert (es : Entries) (path : List String) (d : Document) : Option Entries :=
  match path.getLast? with
  | none => none
  | some name =>
    descend (!path.dropLast.isEmpty) (fun origin inner =>
      if (origin = .dotted) = path.dropLast.isEmpty then none
      else if (inner.lookup name).isSome then none
      else some (inner.put name (.value d))) path.dropLast .header es

def insertAll (es : Entries) (pairs : List (List String × Document)) : Option Entries :=
  pairs.foldlM (fun es p => es.insert p.1 p.2) es

/-- A table that headers have only passed through so far is continued. -/
def openTable (es : Entries) (path : List String) (pairs : List (List String × Document)) :
    Option Entries :=
  match path.getLast? with
  | none => none
  | some name =>
    descend false (fun _ inner =>
      match inner.lookup name with
      | none => do return inner.put name (.table .header (← insertAll [] pairs))
      | some (.table .implied old) => do
        return inner.put name (.table .header (← insertAll old pairs))
      | _ => none) path.dropLast .header es

def openSeries (es : Entries) (path : List String) (pairs : List (List String × Document)) :
    Option Entries :=
  match path.getLast? with
  | none => none
  | some name =>
    descend false (fun _ inner =>
      match inner.lookup name with
      | none => do return inner.put name (.series [← insertAll [] pairs])
      | some (.series tables) => do
        return inner.put name (.series ((← insertAll [] pairs) :: tables))
      | _ => none) path.dropLast .header es

end Entries

mutual

def Node.toDocument : Node → Document
  | .value d => d
  | .table _ es => .table (entriesToDocument es)
  | .series tables => .list (seriesToDocument [] tables)

def entriesToDocument : List (String × Node) → List (String × Document)
  | [] => []
  | (name, n) :: es => (name, n.toDocument) :: entriesToDocument es

def seriesToDocument (later : List Document) : List (List (String × Node)) → List Document
  | [] => later
  | es :: tables => seriesToDocument (.table (entriesToDocument es) :: later) tables

end

end Toolpath.Toml
