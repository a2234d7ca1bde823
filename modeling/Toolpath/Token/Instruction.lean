import Toolpath.Text.Split
import Toolpath.Token.Command

/-! Instructions: the words of a line, each a letter and its argument. -/

namespace Toolpath

structure Token where
  letter : Char
  argument : List Char
  deriving DecidableEq, Repr

namespace Token

def split (cs : List Char) : List Token :=
  (cs.foldr (fun c (argument, tokens) =>
    if Command.isLetter c then ([], ⟨c, argument⟩ :: tokens) else (c :: argument, tokens))
    ([], [])).2

def finite? (t : Token) : Option Float := (Numeral.float? t.argument).filter (·.isFinite)

/-- A ratio that cannot be read is zero. -/
def mix? (t : Token) : Option (List Float) :=
  if t.finite?.isNone && t.letter = 'E' && t.argument.contains ':' then
    some ((Text.splitOn ':' t.argument).map fun part => (Numeral.float? part).getD 0.0)
  else none

def isMalformed (t : Token) : Bool :=
  t.finite?.isNone && !t.argument.isEmpty && t.mix?.isNone

def value (t : Token) : Float :=
  match t.finite? with
  | some x => x
  | none => ((t.mix?.bind List.head?).getD 0.0)

def text (t : Token) : String := String.ofList (t.letter :: t.argument)

end Token

structure Word where
  letter : Char
  value : Float
  deriving DecidableEq

structure Instruction where
  words : List Word := []
  malformed : List String := []
  mix : Option (List Float) := none
  deriving DecidableEq

namespace Instruction

def ofTokens (ts : List Token) : Instruction where
  words := ts.map fun t => ⟨t.letter, t.value⟩
  malformed := (ts.filter Token.isMalformed).map Token.text
  mix := (ts.filterMap Token.mix?).getLast?

def tokenize (code : List Char) : Instruction :=
  ofTokens (Token.split ((Command.text code).filter (!Text.isBlank ·)))

def isEmpty (i : Instruction) : Bool := i.words.isEmpty

def get? (i : Instruction) (letter : Char) : Option Float :=
  (i.words.find? (·.letter == letter)).map (·.value)

def has (i : Instruction) (letter : Char) : Bool := i.words.any (·.letter == letter)

def hasAny (i : Instruction) (letters : List Char) : Bool :=
  i.words.any fun w => letters.contains w.letter

def codes (i : Instruction) (letter : Char) : List Nat :=
  (i.words.filter (·.letter == letter)).map fun w => scaledCode w.value

def hasCode (i : Instruction) (letter : Char) (code : Nat) : Bool :=
  (i.codes letter).contains code

def getD (i : Instruction) (letter : Char) : Float := (i.get? letter).getD 0.0

end Instruction
end Toolpath
