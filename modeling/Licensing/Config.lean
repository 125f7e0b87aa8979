import Licensing.Value
/-!
# Settings of a scan

A table of settings is accepted as a whole or refused at its first bad entry.
-/
namespace Licensing

/-- How the license of a file is found. -/
inductive Strategy
  /-- From the license files of its package. -/
  | file
  /-- From the tag in its header, and else from the license files. -/
  | spdxHeader
  deriving DecidableEq, Repr

namespace Strategy

def name : Strategy → String
  | .file => "file"
  | .spdxHeader => "spdx-header"

def all : List Strategy := [.file, .spdxHeader]

def ofName? (t : Text) : Option Strategy := all.find? fun s => s.name.toList = t

end Strategy

structure Config where
  strategy : Strategy
  licenseStems : List Text
  headerLines : Nat
  maxDepth : Nat
  deriving DecidableEq, Repr

namespace Config

def maxMaxDepth : Nat := 64

def defaults : Config :=
  ⟨.file, ["LICENSE".toList, "LICENCE".toList, "COPYING".toList, "NOTICE".toList], 30, maxMaxDepth⟩

inductive Setting
  | strategy
  | licenseStems
  | headerLines
  | maxDepth
  deriving DecidableEq, Repr

def Setting.key : Setting → String
  | .strategy => "strategy"
  | .licenseStems => "license-file-stems"
  | .headerLines => "header-lines"
  | .maxDepth => "max-expression-depth"

/-- In the order of their keys. -/
def Setting.all : List Setting := [.headerLines, .licenseStems, .maxDepth, .strategy]

def Setting.ofKey? (t : Text) : Option Setting := all.find? fun s => s.key.toList = t

/-- Why an entry is refused. -/
inductive Fault
  | unknownKey (key : Text)
  | notPositive (s : Setting) (v : Value)
  | tooLarge (s : Setting) (n : Nat)
  | notStrategy (s : Setting) (v : Value)
  | notStems (s : Setting)
  | invalidToml
  deriving DecidableEq, Repr

def Setting.shown (s : Setting) : Text := Text.quoted s.key.toList

def Fault.message : Fault → Text
  | .unknownKey k =>
    "unknown key ".toList ++ Text.quoted k ++ " (known keys: ".toList ++
      Text.join ", ".toList (Setting.all.map fun s => s.key.toList) ++ [')']
  | .notPositive s v => s.shown ++ " must be a positive integer, got ".toList ++ v.shown
  | .tooLarge s n =>
    s.shown ++ " must be at most ".toList ++ Text.ofNat maxMaxDepth ++ ", got ".toList ++ Text.ofNat n
  | .notStrategy s v =>
    s.shown ++ " must be one of ".toList ++ Text.join ", ".toList (Strategy.all.map fun s => s.name.toList) ++
      ", got ".toList ++ v.shown
  | .notStems s => s.shown ++ " must be a non-empty list of non-empty strings".toList
  | .invalidToml => "invalid TOML".toList

/-- The value that a message shows. -/
def Fault.value? : Fault → Option Value
  | .notPositive _ v => some v
  | .tooLarge _ n => some (.int n)
  | .notStrategy _ v => some v
  | _ => none

def Fault.isShowable (f : Fault) : Bool := f.value?.all Value.isShowable

/-- A fault and the place of the table that has it. -/
structure Error where
  source : Text
  fault : Fault
  deriving DecidableEq, Repr

def Error.message (e : Error) : Text := e.source ++ ": ".toList ++ e.fault.message

/-- A whole number above zero; truth values are no numbers. -/
def positive (s : Setting) : Value → Except Fault Nat
  | .int n => if n < 1 then .error (.notPositive s (.int n)) else .ok n.toNat
  | v => .error (.notPositive s v)

def depth (s : Setting) (v : Value) : Except Fault Nat := do
  let n ← positive s v
  if maxMaxDepth < n then .error (.tooLarge s n) else .ok n

/-- A value is taken for what it is printed as. -/
def strategyOf (s : Setting) (v : Value) : Except Fault Strategy :=
  match v.printed?.bind Strategy.ofName? with
  | some x => .ok x
  | none => .error (.notStrategy s v)

def stem? : Value → Option Text
  | .text t => if t.isEmpty then none else some t
  | _ => none

def stemsOf (s : Setting) : Value → Except Fault (List Text)
  | .list (v :: vs) =>
    match (v :: vs).mapM stem? with
    | some ts => .ok ts
    | none => .error (.notStems s)
  | _ => .error (.notStems s)

/-- One setting changed. -/
def set (c : Config) (s : Setting) (v : Value) : Except Fault Config :=
  match s with
  | .strategy => (strategyOf s v).map fun x => { c with strategy := x }
  | .licenseStems => (stemsOf s v).map fun ts => { c with licenseStems := ts }
  | .headerLines => (positive s v).map fun n => { c with headerLines := n }
  | .maxDepth => (depth s v).map fun n => { c with maxDepth := n }

def setKey (c : Config) (key : Text) (v : Value) : Except Fault Config :=
  match Setting.ofKey? key with
  | none => .error (.unknownKey key)
  | some s => c.set s v

/-- The entries of a table, in order. -/
def setAll (c : Config) : Fields → Except Fault Config
  | [] => .ok c
  | (k, v) :: fs =>
    match c.setKey k v with
    | .ok c => setAll c fs
    | .error f => .error f

def ofTable (source : Text) (fs : Fields) : Except Error Config :=
  (defaults.setAll fs).mapError fun f => ⟨source, f⟩

def defaultSource : String := "<config>"

end Config
end Licensing
