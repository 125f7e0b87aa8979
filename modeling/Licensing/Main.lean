import Licensing.Tool
/-!
# The program

Reads the places on the disk that the command line names, runs the tool and prints its report.
-/
open Licensing

/-- A regular file, or a directory with what lies directly inside. -/
def readPlace (path : String) : IO (Option Tree) := do
  let place := (← IO.currentDir) / path
  if ← place.isDir then
    let mut entries : List (Text × Tree) := []
    for e in ← place.readDir do
      if ← e.path.isDir then entries := (e.fileName.toList, .folder []) :: entries
      else entries := (e.fileName.toList, .file (← IO.FS.readBinFile e.path).toList) :: entries
    return some (.folder entries)
  else if ← place.pathExists then return some (.file (← IO.FS.readBinFile place).toList)
  else return none

def readDisk (cwd : List Text) (places : List Path) : IO Disk := do
  let mut root : Tree := Tree.graft (.folder []) cwd (.folder [])
  for p in places do
    if let some t ← readPlace (String.ofList p.text) then root := Tree.graft t p.parts root
  return ⟨root, cwd⟩

def main (args : List String) : IO UInt32 := do
  let words := args.map String.toList
  let cwd := (Path.ofText (← IO.currentDir).toString.toList).parts
  let environment := (← IO.getEnv Tool.logVariable).getD ""
  let disk ← readDisk cwd (Tool.places cwd words)
  let _ : Grammar.Stack := ⟨128, by decide⟩
  let report := Tool.run disk environment.toList words
  IO.print (String.ofList report.stdout)
  IO.eprint (String.ofList report.stderr)
  match report.ending with
  | .code n => return n.toUInt32
  | .shown => return 0
  | .crash _ => return 1
