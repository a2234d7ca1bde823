import Toolpath.Decimal.Numeral
import Toolpath.Document.Basic
import Toolpath.Toml.Text

/-! Numbers and dates of TOML. -/

namespace Toolpath.Toml

open Text Text.Scan

def digitRun (isDigit : Char → Bool) : List Char → Option (List Char)
  | [] => none
  | [c] => if isDigit c then some [c] else none
  | c :: '_' :: cs => if isDigit c then (digitRun isDigit cs).map (c :: ·) else none
  | c :: cs => if isDigit c then (digitRun isDigit cs).map (c :: ·) else none

def baseValue? (base : Nat) (cs : List Char) : Option Int := do
  let ds ← digitRun (fun c => (hexDigit? c).any (· < base)) cs
  let n := (← ds.mapM hexDigit?).foldl (base * · + ·) 0
  if n < 1 <<< 63 then some n else none

def wholeDigits? (cs : List Char) : Option (List Char) :=
  if cs.head? = some '0' && cs ≠ ['0'] then none else digitRun Numeral.isDigit cs

def decimalInt? (cs : List Char) : Option Int := do
  let (negative, rest) := Numeral.splitSign cs
  let n := Numeral.digitsValue 0 (← wholeDigits? rest)
  if negative then if n ≤ 1 <<< 63 then some (-(n : Int)) else none
  else if n < 1 <<< 63 then some n else none

/-- Positive overflow is refused. -/
def decimalFloat? (cs : List Char) : Option Float := do
  let (_, rest) := Numeral.splitSign cs
  let whole := rest.takeWhile fun c => Numeral.isDigit c || c = '_'
  let rest := rest.drop whole.length
  discard <| wholeDigits? whole
  let (fraction, power) := match rest with
    | '.' :: cs => (some (cs.takeWhile (!"eE".contains ·)), cs.dropWhile (!"eE".contains ·))
    | cs => (none, cs)
  match fraction with
  | some ds => discard <| digitRun Numeral.isDigit ds
  | none => pure ()
  match power with
  | [] => if fraction.isNone then none
  | e :: cs =>
    if e = 'e' || e = 'E' then
      let (_, ds) := Numeral.splitSign cs
      discard <| digitRun Numeral.isDigit ds
    else none
  (Numeral.float? (cs.filter (· ≠ '_'))).filter fun x => !(x.isInf && 0.0 < x)

def specialFloat? (cs : List Char) : Option Float :=
  let (negative, word) := Numeral.splitSign cs
  if word = "inf".toList then some (if negative then -Numeral.infinity else Numeral.infinity)
  else if word = "nan".toList then some Numeral.nan
  else none

def number? (cs : List Char) : Option Document :=
  match cs with
  | '0' :: 'x' :: ds => (baseValue? 16 ds).map .int
  | '0' :: 'o' :: ds => (baseValue? 8 ds).map .int
  | '0' :: 'b' :: ds => (baseValue? 2 ds).map .int
  | _ =>
    match specialFloat? cs, decimalFloat? cs, decimalInt? cs with
    | some x, _, _ => some (.float x)
    | none, some x, _ => some (.float x)
    | none, none, some n => some (.int n)
    | none, none, none => none

def field (width lo hi : Nat) : Scan Nat := do
  let cs ← get
  let ds := cs.take width
  let n := Numeral.digitsValue 0 ds
  if ds.length = width && ds.all Numeral.isDigit && lo ≤ n && n ≤ hi then
    set (cs.drop width)
    return n
  else failure

def daysIn (year month : Nat) : Nat :=
  if month = 2 then
    if year % 4 = 0 && (year % 100 ≠ 0 || year % 400 = 0) then 29 else 28
  else if [4, 6, 9, 11].contains month then 30
  else 31

def date : Scan Unit := do
  let year ← field 4 0 9999
  expect '-'
  let month ← field 2 1 12
  expect '-'
  discard <| field 2 1 (daysIn year month)

def time : Scan Unit := do
  discard <| field 2 0 23
  expect ':'
  discard <| field 2 0 59
  expect ':'
  discard <| field 2 0 60
  if ← optional "." then discard <| someWhile Numeral.isDigit

def zone : Scan Unit := do
  match ← peek with
  | some 'Z' | some 'z' => discard <| one fun _ => true
  | some '+' | some '-' =>
    discard <| one fun _ => true
    discard <| field 2 0 23
    expect ':'
    discard <| field 2 0 59
  | _ => return ()

def moment : Scan Unit := fun cs =>
  match date cs with
  | none => time cs
  | some ((), rest) =>
    match rest with
    | c :: after =>
      if c = 'T' || c = 't' || c = ' ' then
        match (do time; zone : Scan Unit) after with
        | some r => some r
        | none => if c = ' ' then some ((), rest) else none
      else some ((), rest)
    | [] => some ((), rest)

/-- A date is a table with one private entry. -/
def dateDocument : Document := .table [("$date", .null)]

def isNumberChar (c : Char) : Bool := c.isAlphanum || c = '+' || c = '-' || c = '.' || c = '_'

def numberOrDate : Scan Document := fun cs =>
  match moment cs with
  | some ((), rest) => some (dateDocument, rest)
  | none => (number? (cs.takeWhile isNumberChar)).map (·, cs.dropWhile isNumberChar)

end Toolpath.Toml
