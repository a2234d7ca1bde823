import Toolpath.Decimal.Dyadic
import Toolpath.Decimal.Numeral
import Toolpath.Text.Blank
import Toolpath.Text.Case
import Toolpath.Text.Digit

/-! The part of a line that holds commands: upper case, without checksum, and without the free text
that some M codes carry. -/

namespace Toolpath

/-- A command number scaled by ten, so that dotted codes are integers too. -/
def scaledCode (value : Float) : Nat := (roundFloat .nearest .word32 (value * 10.0)).toNat

namespace Command

def isLetter (c : Char) : Bool := 'A' ≤ c && c ≤ 'Z'

/-- Scaled by ten. -/
def textCodes : List Nat := [230, 280, 300, 320, 1170, 1180]

def digits? (cs : List Char) : Option (List Char × List Char) :=
  let cs := Text.trimStart cs
  let ds := cs.takeWhile Text.isDecimalDigit
  if ds.isEmpty then none else some (ds, cs.drop ds.length)

def skipLineNumber (cs : List Char) : List Char :=
  match cs with
  | 'N' :: rest =>
    match digits? rest with
    | some (_, rest) => Text.trimStart rest
    | none => cs
  | _ => cs

structure Head where
  number : List Char
  rest : List Char

def head? (cs : List Char) : Option Head :=
  match skipLineNumber (Text.trimStart cs) with
  | 'M' :: cs => do
    let (whole, rest) ← digits? cs
    match rest with
    | '.' :: after =>
      let fraction := after.takeWhile Text.isDecimalDigit
      if fraction.isEmpty then some ⟨whole, rest⟩
      else some ⟨whole ++ '.' :: fraction, after.drop fraction.length⟩
    | _ => some ⟨whole, rest⟩
  | _ => none

def Head.code (h : Head) : Nat := ((Numeral.float? h.number).map scaledCode).getD 0

/-- Two letters in a row can only belong to a word of text. -/
def beforeWord : List Char → List Char
  | c :: d :: cs => if isLetter c && isLetter d then [] else c :: beforeWord (d :: cs)
  | cs => cs

def Head.arguments (h : Head) : List Char :=
  if textCodes.contains h.code then [] else beforeWord h.rest

def upperLine (code : List Char) : List Char := (Text.upper code).takeWhile (· != '*')

def text (code : List Char) : List Char :=
  let line := upperLine code
  match head? line with
  | none => line
  | some h => line.take (line.length - h.rest.length) ++ h.arguments

end Command
end Toolpath
