import Toolpath.File
import Toolpath.Json.Reader
import Toolpath.Settings.Decode
import Toolpath.Toml.Reader

/-! Loading settings from TOML and JSON text and from files. What is loaded is valid. -/

namespace Toolpath

inductive LoadError
  | file (error : FileError)
  | json
  | toml
  | settings (error : SettingsError)
  deriving DecidableEq, Repr

def LoadError.message : LoadError → String
  | .file e => "I/O error: " ++ e.message
  | .json => "JSON error:"
  | .toml => "TOML error:"
  | .settings e => "Config error: " ++ e.message

namespace Document.Dialect

def json : Dialect := ⟨false, fun d => match d with
  | .null => true
  | _ => false⟩

def toml : Dialect := ⟨true, fun d => match d with
  | .list [] | .table [] => true
  | _ => false⟩

end Document.Dialect

namespace Settings

def checked (s : Settings) : Except LoadError Settings :=
  match s.complaint? with
  | some e => .error (.settings e)
  | none => .ok s

def ofJson (text : List Char) : Except LoadError Settings :=
  match (Json.read? text).bind (ofDocument? .json) with
  | some s => s.checked
  | none => .error .json

def ofToml (text : List Char) : Except LoadError Settings :=
  match (Toml.read? text).bind (ofDocument? .toml) with
  | some s => s.checked
  | none => .error .toml

def ofFile (path text : String) : Except LoadError Settings :=
  match Path.extension? path with
  | some "json" => ofJson text.toList
  | some "toml" => ofToml text.toList
  | other => .error (.settings (.unsupportedFormat (other.getD "<none>")))

end Settings
end Toolpath
