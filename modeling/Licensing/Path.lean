import Licensing.Text
/-!
# Paths

A path is an anchor and a list of components.  Repeated slashes and components that are a single dot vanish when a
path is read; two dots stay.  Exactly two slashes in front are an anchor of their own.
-/
namespace Licensing

inductive Anchor
  | relative
  | root
  | doubleRoot
  deriving DecidableEq, Repr

structure Path where
  anchor : Anchor
  parts : List Text
  deriving DecidableEq, Repr

namespace Path

def anchorOf : Text → Anchor
  | '/' :: '/' :: '/' :: _ => .root
  | '/' :: '/' :: _ => .doubleRoot
  | '/' :: _ => .root
  | _ => .relative

def isPart (p : Text) : Bool := !p.isEmpty && p != ['.']

def ofText (t : Text) : Path := ⟨anchorOf t, (Text.splitAt '/' t).filter isPart⟩

def Anchor.text : Anchor → Text
  | .relative => []
  | .root => ['/']
  | .doubleRoot => ['/', '/']

def text (p : Path) : Text :=
  if p.anchor = .relative && p.parts.isEmpty then ['.'] else Anchor.text p.anchor ++ Text.join ['/'] p.parts

/-- The path of an entry of a directory. -/
def child (p : Path) (name : Text) : Path := { p with parts := p.parts ++ [name] }

/-- The path of the directory of an entry. -/
def parent (p : Path) : Path := { p with parts := p.parts.dropLast }

/-- What remains of a list behind another one that it begins with. -/
def partsAfter? : List Text → List Text → Option (List Text)
  | [], ps => some ps
  | _ :: _, [] => none
  | q :: qs, p :: ps => if q = p then partsAfter? qs ps else none

/-- The path relative to a base that it lies in. -/
def relativeTo? (p base : Path) : Option Path :=
  if base.anchor = p.anchor then (partsAfter? base.parts p.parts).map (⟨.relative, ·⟩) else none

/-- A path strictly inside the root loses the root, and any other keeps its own text. -/
def stripRoot (p root : Path) : Text :=
  if p = root then p.text else ((p.relativeTo? root).getD p).text

def up : Text := ['.', '.']

/-- Two dots take back the component before them. -/
def collapse : List Text → List Text → List Text
  | done, [] => done.reverse
  | done, p :: ps => if p = up then collapse (done.drop 1) ps else collapse (p :: done) ps

/-- The absolute path without two-dot components, seen from a working directory. -/
def resolve (cwd : List Text) (p : Path) : Path :=
  ⟨.root, collapse [] (if p.anchor = .relative then cwd ++ p.parts else p.parts)⟩

/-- The last dot of a name, unless it is its first or its last character, ends the stem. -/
def stem (name : Text) : Text :=
  match name.reverse.dropWhile (· != '.') with
  | _ :: before => if before.isEmpty || before.length + 1 = name.length then name else before.reverse
  | [] => name

end Path
end Licensing
