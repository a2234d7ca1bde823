/-! Documents: the values that configuration files and tool lists are read into and written from. -/

namespace Toolpath

/-- `unreadable` is a well-formed value that stands for nothing, such as a number beyond all floats;
it may be skipped but not used. -/
inductive Document
  | null
  | bool (b : Bool)
  | int (n : Int)
  | float (x : Float)
  | text (s : String)
  | list (items : List Document)
  | table (entries : List (String × Document))
  | unreadable
  deriving Inhabited

namespace Document

def field? (name : String) : Document → Option Document
  | .table entries => (entries.reverse.find? fun e => e.1 == name).map (·.2)
  | _ => none

end Document
end Toolpath
