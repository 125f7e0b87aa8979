import Licensing.Config
import Licensing.Disk
import Licensing.Run
import Licensing.Text
import Licensing.Toml.Reader
/-!
# Where settings come from

The settings file of a directory comes first, then the section of the project file, then the defaults.
-/
namespace Licensing.Config

inductive LoadError
  | refused (e : Error)
  /-- The file is no UTF-8 text. -/
  | undecodable (d : Utf8.Damage)
  /-- A value is refused that no message can show. -/
  | unshowable
  deriving DecidableEq, Repr

def loggerName : String := "tplkit.config"

def event (name : String) (values : List (String × Text)) : Log.Event :=
  ⟨loggerName.toList, .debug, name.toList, values.map fun p => (p.1.toList, .text p.2)⟩

def ownFile : Text := "tplkit.toml".toList

def projectFile : Text := "pyproject.toml".toList

def sectionName : String := "tool.tplkit"

/-- The table that a file holds. -/
def readToml (path : Path) (content : Bytes) : Except LoadError Fields :=
  match Utf8.decode content with
  | .error d => .error (.undecodable d)
  | .ok t =>
    match Toml.read? (Text.unifyEnds t) with
    | none => .error (.refused ⟨path.text, .invalidToml⟩)
    | some fs => .ok fs

/-- The content of a regular file. -/
def content? (d : Disk) (p : Path) : Option Bytes :=
  match d.find p with
  | .ok (.file content) => some content
  | _ => none

/-- The section of a project file, if it is a table. -/
def sectionOf? (fs : Fields) : Option Fields :=
  match fs.lookup "tool".toList with
  | some (.record tool) =>
    match tool.lookup "tplkit".toList with
    | some (.record table) => some table
    | _ => none
  | _ => none

/-- An error is reported if its message can be made. -/
def refusal (e : Error) : LoadError := if e.fault.isShowable then .refused e else .unshowable

def check (source : Text) (fs : Fields) : Run LoadError Config :=
  .ofExcept ((ofTable source fs).mapError refusal)

def useDefaults (start : Path) : Run LoadError Config := do
  Run.log (event "config_defaults" [("start", start.text)])
  return defaults

def loadProject (d : Disk) (start : Path) : Run LoadError Config :=
  let path := start.child projectFile
  match content? d path with
  | none => useDefaults start
  | some content => do
    let fs ← Run.ofExcept (readToml path content)
    match sectionOf? fs with
    | none => useDefaults start
    | some table => do
      Run.log (event "config_loaded" [("path", path.text), ("section", sectionName.toList)])
      check (path.text ++ " [".toList ++ sectionName.toList ++ [']']) table

def load (d : Disk) (start : Path) : Run LoadError Config :=
  let path := start.child ownFile
  match content? d path with
  | none => loadProject d start
  | some content => do
    Run.log (event "config_loaded" [("path", path.text)])
    let fs ← Run.ofExcept (readToml path content)
    check path.text fs

end Licensing.Config
