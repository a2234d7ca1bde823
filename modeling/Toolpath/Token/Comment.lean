import Toolpath.Text.Blank

/-! Comments of program lines: the rest of a line after `;`, and text in parentheses. -/

namespace Toolpath

def isCommentLine (line : List Char) : Bool := (Text.trimStart line).head? = some ';'

inductive CommentState
  | code
  | enclosed
  | trailing
  deriving DecidableEq, Repr

/-- A parenthesis that is never closed opens a comment up to the end of the line. -/
def dropComments : CommentState → List Char → List Char
  | _, [] => []
  | .code, c :: cs =>
    if c = '(' then dropComments (if ')' ∈ cs then .enclosed else .trailing) cs
    else if c = ';' then dropComments .trailing cs
    else c :: dropComments .code cs
  | .enclosed, c :: cs => dropComments (if c = ')' then .code else .enclosed) cs
  | .trailing, c :: cs =>
    if c = '\n' then c :: dropComments .code cs else dropComments .trailing cs

def stripComments (text : List Char) : List Char := dropComments .code text

end Toolpath
