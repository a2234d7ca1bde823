import Toolpath.Text.Hex
import Toolpath.Text.Scan

/-! Line ends, comments, strings and keys of TOML. -/

namespace Toolpath.Toml

open Text Text.Scan

def isSpace (c : Char) : Bool := c = ' ' || c = '\t'

def skipSpace : Scan Unit := skipWhile isSpace

def isPlain (c : Char) : Bool := c = '\t' || (0x20 ≤ c.toNat && c.toNat ≠ 0x7F)

def newline : Scan Unit := do
  if ← optional "\n" then return () else word "\r\n"

def atNewline : List Char → Bool
  | '\n' :: _ | '\r' :: '\n' :: _ => true
  | _ => false

def comment : Scan Unit := do
  if ← optional "#" then skipWhile isPlain

def lineEnd : Scan Unit := do
  unless (← get).isEmpty do newline

def trailing : Scan Unit := do
  skipSpace
  comment
  lineEnd

def skipLines : Nat → Scan Unit
  | 0 => return ()
  | fuel + 1 => do
    skipSpace
    if (← peek) = some '#' || atNewline (← get) then
      comment
      lineEnd
      skipLines fuel

def dropBlank : List Char → List Char
  | '\r' :: '\n' :: cs => dropBlank cs
  | c :: cs => if isSpace c || c = '\n' then dropBlank cs else c :: cs
  | [] => []

def scalar? (digits : List Char) : Option Char := do
  let n := (← digits.mapM hexDigit?).foldl (16 * · + ·) 0
  if n.isValidChar then some (Char.ofNat n) else none

def escape? : Char → Option Char
  | 'b' => some '\x08'
  | 't' => some '\t'
  | 'n' => some '\n'
  | 'f' => some '\x0c'
  | 'r' => some '\r'
  | '"' => some '"'
  | '\\' => some '\\'
  | _ => none

def escaped? : List Char → Option (Char × List Char)
  | 'u' :: cs => do
    if cs.length < 4 then none
    return (← scalar? (cs.take 4), cs.drop 4)
  | 'U' :: cs => do
    if cs.length < 8 then none
    return (← scalar? (cs.take 8), cs.drop 8)
  | c :: cs => (escape? c).map (·, cs)
  | [] => none

structure StringKind where
  quote : Char
  escapes : Bool
  multiline : Bool

/-- On several lines up to two quotes stand for themselves, also right before the closing three. -/
def stringRest (k : StringKind) : Nat → List Char → List Char → Option (String × List Char)
  | 0, _, _ => none
  | _ + 1, _, [] => none
  | fuel + 1, done, c :: cs =>
    if c = k.quote then
      if k.multiline then
        let quotes := (c :: cs).takeWhile (· = k.quote)
        let rest := cs.drop (quotes.length - 1)
        if quotes.length < 3 then stringRest k fuel (quotes ++ done) rest
        else if quotes.length < 6 then
          some (String.ofList ((quotes.drop 3 ++ done).reverse), rest)
        else none
      else some (String.ofList done.reverse, cs)
    else if c = '\\' && k.escapes then
      let line := cs.dropWhile isSpace
      if k.multiline && atNewline line then stringRest k fuel done (dropBlank line)
      else match escaped? cs with
        | some (d, rest) => stringRest k fuel (d :: done) rest
        | none => none
    else if k.multiline && atNewline (c :: cs) then
      stringRest k fuel ('\n' :: done) (if c = '\r' then cs.drop 1 else cs)
    else if isPlain c then stringRest k fuel (c :: done) cs
    else none

def stringBody (k : StringKind) : Scan String := fun cs => stringRest k (cs.length + 1) [] cs

def lineString (quote : Char) : Scan String := do
  expect quote
  stringBody ⟨quote, quote = '"', false⟩

/-- A line end right after three opening quotes does not count. -/
def anyString (quote : Char) : Scan String := do
  if ← optional (String.ofList [quote, quote, quote]) then
    if atNewline (← get) then newline
    stringBody ⟨quote, quote = '"', true⟩
  else lineString quote

def isBare (c : Char) : Bool := c.isAlphanum || c = '_' || c = '-'

def simpleKey : Scan String := do
  match ← peek with
  | some '"' => lineString '"'
  | some '\'' => lineString '\''
  | _ => return String.ofList (← someWhile isBare)

/-- Values inside values, and parts of a key, may not reach this number. -/
def maxDepth : Nat := 80

def keyParts : Nat → Scan (List String)
  | 0 => failure
  | fuel + 1 => do
    skipSpace
    let part ← simpleKey
    skipSpace
    if ← optional "." then return part :: (← keyParts fuel) else return [part]

def key : Scan (List String) := keyParts (maxDepth - 1)

end Toolpath.Toml
