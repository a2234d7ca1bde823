import Toolpath.Color
import Toolpath.Document.Basic

/-! Reading values out of documents. Records may be tables, whose unknown entries are skipped, or
lists of their fields in order. -/

namespace Toolpath.Document

def asBool? : Document → Option Bool
  | .bool b => some b
  | _ => none

def asText? : Document → Option String
  | .text s => some s
  | _ => none

def asFloat? : Document → Option Float
  | .float x => some x
  | .int n => some (Float.ofInt n)
  | _ => none

def asFloat32? : Document → Option Float32
  | .float x => some x.toFloat32
  | .int n => some (Float32.ofInt n)
  | _ => none

def asNat? (bound : Nat) : Document → Option Nat
  | .int n => if 0 ≤ n ∧ n ≤ bound then some n.toNat else none
  | _ => none

def asOption? (read? : Document → Option α) : Document → Option (Option α)
  | .null => some none
  | d => (read? d).map some

def asList? (read? : Document → Option α) : Document → Option (List α)
  | .list ds => ds.mapM read?
  | _ => none

def asColor? : Document → Option Color
  | .text s => Color.ofHex? s.toList
  | _ => none

structure Dialect where
  extraItems : Bool
  emptyPayload : Document → Bool

def asName? (dialect : Dialect) (ofName? : String → Option α) : Document → Option α
  | .text s => ofName? s
  | .table [(s, payload)] => if dialect.emptyPayload payload then ofName? s else none
  | _ => none

structure RecordField (α : Type) where
  name : String
  set? : Document → α → Option α

def RecordField.of (name : String) (read? : Document → Option β) (put : β → α → α) : RecordField α :=
  ⟨name, fun d x => (read? d).map fun v => put v x⟩

def asRecord? (dialect : Dialect) (fields : List (RecordField α)) (initial : α) : Document → Option α
  | .table entries => do
    let known := entries.filter fun e => fields.any (·.name == e.1)
    if (known.map (·.1)).eraseDups.length = known.length then
      known.foldlM (fun x e => do (← fields.find? (·.name == e.1)).set? e.2 x) initial
    else none
  | .list items =>
    if fields.length < items.length ∧ ¬ dialect.extraItems then none
    else (fields.zip items).foldlM (fun x (f, d) => f.set? d x) initial
  | _ => none

end Toolpath.Document
