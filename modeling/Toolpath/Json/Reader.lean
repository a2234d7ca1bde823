import Toolpath.Document.Basic
import Toolpath.Decimal.Numeral
import Toolpath.Text.Hex
import Toolpath.Text.Scan

/-! Reading JSON text into documents. The grammar is strict. Numbers with a point or an exponent are
floats, all others integers as far as 64 bits reach. -/

namespace Toolpath.Json

open Text Text.Scan

def isSpace (c : Char) : Bool := c = ' ' || c = '\n' || c = '\t' || c = '\r'

def skipSpace : Scan Unit := skipWhile isSpace

def hexFour? (a b c d : Char) : Option Nat := do
  let ds ← [a, b, c, d].mapM hexDigit?
  return ds.foldl (16 * · + ·) 0

def isHighSurrogate (n : Nat) : Bool := 0xD800 ≤ n && n < 0xDC00
def isLowSurrogate (n : Nat) : Bool := 0xDC00 ≤ n && n < 0xE000

/-- The characters read so far, last first, and the first half of a surrogate pair that waits for
its second half. Text with an unpaired half is unreadable from there on. -/
structure Unescaped where
  chars : List Char := []
  pending : Option Nat := none
  readable : Bool := true

namespace Unescaped

def push (p : Unescaped) (c : Char) : Unescaped :=
  { chars := c :: p.chars, readable := p.readable && p.pending.isNone }

def pushUnit (p : Unescaped) (n : Nat) : Unescaped :=
  match p.pending with
  | some high =>
    if isLowSurrogate n then
      { p with chars := Char.ofNat ((high - 0xD800) * 0x400 + (n - 0xDC00) + 0x10000) :: p.chars
               pending := none }
    else { p with pending := none, readable := false }
  | none =>
    if isHighSurrogate n then { p with pending := some n }
    else if isLowSurrogate n then { p with readable := false }
    else p.push (Char.ofNat n)

def finish (p : Unescaped) : Option String :=
  if p.readable && p.pending.isNone then some (String.ofList p.chars.reverse) else none

end Unescaped

def escape? : Char → Option Char
  | '"' => some '"'
  | '\\' => some '\\'
  | '/' => some '/'
  | 'b' => some '\x08'
  | 'f' => some '\x0c'
  | 'n' => some '\n'
  | 'r' => some '\r'
  | 't' => some '\t'
  | _ => none

def stringBody (p : Unescaped) : List Char → Option (Option String × List Char)
  | [] => none
  | '"' :: rest => some (p.finish, rest)
  | '\\' :: 'u' :: a :: b :: c :: d :: rest =>
    match hexFour? a b c d with
    | some n => stringBody (p.pushUnit n) rest
    | none => none
  | '\\' :: e :: rest =>
    match escape? e with
    | some c => stringBody (p.push c) rest
    | none => none
  | c :: rest => if c.toNat < 0x20 || c = '\\' then none else stringBody (p.push c) rest

def stringLiteral : Scan (Option String) := do
  expect '"'
  fun cs => stringBody {} cs

structure Coefficient where
  value : Nat
  exponent : Int
  full : Bool

/-- Takes one more digit; once a digit does not fit, it and all later ones are dropped, and `step`
says what a dropped digit does to the exponent. -/
def Coefficient.push (k : Coefficient) (c : Char) (kept dropped : Int) : Coefficient :=
  let value := 10 * k.value + (c.toNat - '0'.toNat)
  if k.full || 1 <<< 64 ≤ value then { k with exponent := k.exponent + dropped, full := true }
  else { k with value, exponent := k.exponent + kept }

def Coefficient.whole (digits : List Char) : Coefficient :=
  digits.foldl (fun k c => k.push c 0 1) ⟨0, 0, false⟩

/-- Digits after the point start afresh, even if digits before it were dropped. -/
def Coefficient.fraction (k : Coefficient) (digits : List Char) : Coefficient :=
  digits.foldl (fun k c => k.push c (-1) 0) { k with full := false }

def scalePower : Nat → Float → Int → Float
  | 0, x, _ => x
  | fuel + 1, x, e =>
    if e.natAbs ≤ 308 then
      let power := Float.ofScientific 1 false e.natAbs
      if 0 ≤ e then x * power else x / power
    else if x == 0.0 then x
    else if 0 ≤ e then Numeral.infinity
    else scalePower fuel (x / Float.ofScientific 1 false 308) (e + 308)

/-- Exponents far outside the floats are cut: twenty steps of 308 empty every coefficient. -/
def Coefficient.toFloat (k : Coefficient) : Float :=
  scalePower 20 (Float.ofNat k.value) (max (-5000) (min k.exponent 5000))

def someDigits : Scan (List Char) := someWhile Numeral.isDigit

def fractionPart : Scan (Option (List Char)) := do
  if ← optional "." then return some (← someDigits) else return none

def exponentPart : Scan (Option Int) := do
  let mark ← takeWhile fun c => c = 'e' || c = 'E'
  if mark.isEmpty then return none
  else if 1 < mark.length then failure
  else
    let negative ← optional "-"
    unless negative do discard <| optional "+"
    let n := Numeral.digitsValue 0 (← someDigits)
    return some (if negative then -(n : Int) else n)

def ofCoefficient (negative : Bool) (k : Coefficient) : Document :=
  let x := k.toFloat
  if x.isInf then .unreadable else .float (if negative then -x else x)

def number : Scan Document := do
  let negative ← optional "-"
  let digits ← someDigits
  if digits.head? = some '0' && 1 < digits.length then failure
  let whole := Coefficient.whole digits
  match ← fractionPart, ← exponentPart with
  | none, none =>
    let n := Numeral.digitsValue 0 digits
    if negative then
      return if 0 < n && n ≤ 1 <<< 63 then .int (-(n : Int)) else ofCoefficient true whole
    else return if n < 1 <<< 64 then .int n else ofCoefficient false whole
  | fraction, power =>
    let k := match fraction with
      | some ds => whole.fraction ds
      | none => whole
    return ofCoefficient negative { k with exponent := k.exponent + power.getD 0 }

def ofEntries (entries : List (Option String × Document)) : Document :=
  match entries.mapM fun (name, value) => name.map fun name => (name, value) with
  | some entries => .table entries
  | none => .unreadable

mutual

/-- Every step takes at least one character, so the length of the text is fuel enough. -/
def value : Nat → Scan Document
  | 0 => failure
  | fuel + 1 => do
    skipSpace
    match ← peek with
    | some 'n' => word "null"; return .null
    | some 't' => word "true"; return .bool true
    | some 'f' => word "false"; return .bool false
    | some '"' =>
      match ← stringLiteral with
      | some s => return .text s
      | none => return .unreadable
    | some '[' =>
      expect '['
      skipSpace
      if ← optional "]" then return .list [] else return .list (← items fuel)
    | some '{' =>
      expect '{'
      skipSpace
      if ← optional "\x7d" then return .table [] else return ofEntries (← members fuel)
    | _ => number

def items : Nat → Scan (List Document)
  | 0 => failure
  | fuel + 1 => do
    let item ← value fuel
    skipSpace
    if ← optional "," then return item :: (← items fuel)
    else
      expect ']'
      return [item]

def members : Nat → Scan (List (Option String × Document))
  | 0 => failure
  | fuel + 1 => do
    skipSpace
    let name ← stringLiteral
    skipSpace
    expect ':'
    let item ← value fuel
    skipSpace
    if ← optional "," then return (name, item) :: (← members fuel)
    else
      expect '}'
      return [(name, item)]

end

def read? (text : List Char) : Option Document := do
  let (d, rest) ← value (text.length + 1) text
  if rest.all isSpace then some d else none

end Toolpath.Json
