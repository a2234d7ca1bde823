import Toolpath.Text.Split

/-! Reading files by their paths. -/

namespace Toolpath

inductive FileError
  | notFound
  | notDirectory
  | isDirectory
  | nameTooLong
  | nameHasNul
  | other (reason : String)
  deriving DecidableEq, Repr

namespace FileError

def message : FileError → String
  | notFound => "No such file or directory (os error 2)"
  | notDirectory => "Not a directory (os error 20)"
  | isDirectory => "Is a directory (os error 21)"
  | nameTooLong => "File name too long (os error 36)"
  | nameHasNul => "file name contained an unexpected NUL byte"
  | other reason => reason

def ofCode? : Nat → Option FileError
  | 2 => some notFound
  | 20 => some notDirectory
  | 21 => some isDirectory
  | 36 => some nameTooLong
  | _ => none

end FileError

namespace Path

def fileName (path : String) : List Char := ((Text.splitOn '/' path.toList).getLast?).getD []

/-- What follows the last point of the file name; a point in front of the name does not count. -/
def extension? (path : String) : Option String :=
  match (Text.splitOn '.' (fileName path)).reverse with
  | _ :: [] | [] => none
  | last :: before => if before = [[]] then none else some (String.ofList last)

end Path

structure Directory where
  files : List (String × String) := []
  deriving DecidableEq, Repr

inductive Place
  | inside (way : List (List Char))
  | outside
  deriving DecidableEq, Repr

def Place.parent : Place → Place
  | inside [] | outside => outside
  | inside way => inside way.dropLast

inductive Item
  | file (text : String)
  | directory (place : Place)
  deriving DecidableEq, Repr

namespace Directory

def maxName : Nat := 255
def maxPath : Nat := 4095

def isInside (dir path : List (List Char)) : Bool := dir.isPrefixOf path && dir != path

def entries (d : Directory) : List (List (List Char) × String) :=
  d.files.map fun f => (Text.splitOn '/' f.1.toList, f.2)

def item? (d : Directory) (name : List Char) : Place → Option Item
  | .outside => none
  | .inside way =>
    let path := way ++ [name]
    match d.entries.find? (·.1 == path) with
    | some (_, text) => some (.file text)
    | none =>
      if d.entries.any (isInside path ·.1) then some (.directory (.inside path)) else none

def walk (d : Directory) (place : Place) : List (List Char) → Except FileError String
  | [] => .error .isDirectory
  | part :: rest =>
    if part = [] ∨ part = ['.'] then walk d place rest
    else if part = ['.', '.'] then walk d place.parent rest
    else if maxName < Text.byteSize part then .error .nameTooLong
    else
      match d.item? part place with
      | some (.file text) => if rest = [] then .ok text else .error .notDirectory
      | some (.directory place) => walk d place rest
      | none => .error .notFound

/-- A path that starts with a slash leads outside; an empty one stays where it is. -/
def read (d : Directory) (path : String) : Except FileError String :=
  let text := path.toList
  if '\x00' ∈ text then .error .nameHasNul
  else if maxPath < Text.byteSize text then .error .nameTooLong
  else walk d (if text.head? = some '/' then .outside else .inside []) (Text.splitOn '/' text)

end Directory
end Toolpath
