/-! Cutting text at characters and line ends, looking for words in it, and its size in bytes. -/

namespace Toolpath.Text

def byteSize (cs : List Char) : Nat := cs.foldr (fun c n => c.utf8Size + n) 0

def splitOn (sep : Char) (cs : List Char) : List (List Char) :=
  let (part, parts) := cs.foldr
    (fun c (part, parts) => if c = sep then ([], part :: parts) else (c :: part, parts)) ([], [])
  part :: parts

def splitOnce? (sep : Char) (cs : List Char) : Option (List Char × List Char) :=
  match cs.dropWhile (· != sep) with
  | [] => none
  | _ :: rest => some (cs.takeWhile (· != sep), rest)

def hasInfix (word : List Char) : List Char → Bool
  | [] => word.isEmpty
  | c :: cs => word.isPrefixOf (c :: cs) || hasInfix word cs

def after? (head cs : List Char) : Option (List Char) :=
  if head.isPrefixOf cs then some (cs.drop head.length) else none

def dropReturn (cs : List Char) : List Char :=
  if cs.getLast? = some '\r' then cs.dropLast else cs

/-- A line that ends in carriage return and newline loses both; text after the last newline is a
line of its own unless it is empty. -/
def lines (cs : List Char) : List (List Char) :=
  let parts := splitOn '\n' cs
  let closed := parts.dropLast.map dropReturn
  match parts.getLast? with
  | none | some [] => closed
  | some last => closed ++ [last]

end Toolpath.Text
