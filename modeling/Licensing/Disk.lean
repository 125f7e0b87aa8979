import Licensing.Path
import Licensing.Text.Utf8
/-!
# Files and directories

A disk is a tree of named entries and a working directory from which relative paths start.
-/
namespace Licensing

inductive Tree
  | file (content : Bytes)
  | folder (entries : List (Text × Tree))
  deriving Inhabited, Repr

namespace Tree

def entries : Tree → List (Text × Tree)
  | .folder es => es
  | .file _ => []

/-- Gives an entry of a folder another content, or adds it behind the others. -/
def setEntry (k : Text) (t : Tree) : List (Text × Tree) → List (Text × Tree)
  | [] => [(k, t)]
  | (n, u) :: es => if n = k then (n, t) :: es else (n, u) :: setEntry k t es

/-- Puts a file or a folder at the end of some components, with the folders on the way to it.  A folder that is there
already keeps its entries. -/
def graft (new : Tree) : List Text → Tree → Tree
  | [], old =>
    match new, old with
    | .folder [], .folder es => .folder es
    | t, _ => t
  | k :: ks, old => .folder (setEntry k (graft new ks ((old.entries.lookup k).getD (.folder []))) old.entries)

end Tree

structure Disk where
  root : Tree
  cwd : List Text

namespace Disk

/-- Why a file cannot be opened. -/
inductive Fault
  | absent
  | notDirectory
  | isDirectory
  deriving DecidableEq, Repr

def Fault.message : Fault → String
  | .absent => "No such file or directory"
  | .notDirectory => "Not a directory"
  | .isDirectory => "Is a directory"

/-- Follows components from a tree; `above` holds the folders it lies in, the nearest first.  The root is its own
parent. -/
def walk (above : List Tree) (here : Tree) : List Text → Except Fault Tree
  | [] => .ok here
  | p :: ps =>
    match here with
    | .file _ => .error .notDirectory
    | .folder entries =>
      if p = Path.up then
        match above with
        | [] => walk [] here ps
        | t :: ts => walk ts t ps
      else
        match entries.lookup p with
        | none => .error .absent
        | some t => walk (here :: above) t ps

/-- The components of a path from the root on. -/
def partsFromRoot (d : Disk) (p : Path) : List Text :=
  if p.anchor = .relative then d.cwd ++ p.parts else p.parts

def find (d : Disk) (p : Path) : Except Fault Tree := walk [] d.root (d.partsFromRoot p)

def isFile (d : Disk) (p : Path) : Bool :=
  match d.find p with
  | .ok (.file _) => true
  | _ => false

def isFolder (d : Disk) (p : Path) : Bool :=
  match d.find p with
  | .ok (.folder _) => true
  | _ => false

def read (d : Disk) (p : Path) : Except Fault Bytes :=
  match d.find p with
  | .ok (.file content) => .ok content
  | .ok (.folder _) => .error .isDirectory
  | .error f => .error f

/-- The names of the regular files directly inside a directory, in the directory's order. -/
def fileNames (d : Disk) (p : Path) : List Text :=
  match d.find p with
  | .ok (.folder entries) => entries.filterMap fun e =>
      match e.2 with
      | .file _ => some e.1
      | .folder _ => none
  | _ => []

/-- Gives a file a content.  A file that is not there is made if its folder is. -/
def write (d : Disk) (p : Path) (content : Bytes) : Except Fault Disk :=
  let written := { d with root := Tree.graft (.file content) (Path.collapse [] (d.partsFromRoot p)) d.root }
  match d.find p with
  | .ok (.folder _) => .error .isDirectory
  | .ok (.file _) => .ok written
  | .error f => if f = .absent && d.isFolder p.parent then .ok written else .error f

end Disk
end Licensing
