import Licensing.Text
/-!
# License expressions

An expression is a tree of conjunctions and disjunctions over licenses, each with or without an exception.
-/
namespace Licensing

/-- A license: an identifier of the registry, or a reference to a license that some document defines. -/
inductive Simple
  | id (name : Text) (orLater : Bool)
  | ref (name : Text) (document : Option Text)
  deriving DecidableEq, Inhabited, Repr

inductive Expr
  | simple (license : Simple)
  | withException (license : Simple) (exception : Text)
  | and (left right : Expr)
  | or (left right : Expr)
  deriving DecidableEq, Inhabited, Repr

def licenseRefLead : Text := "LicenseRef-".toList

def documentRefLead : Text := "DocumentRef-".toList

def refText (name : Text) : Option Text → Text
  | none => licenseRefLead ++ name
  | some d => documentRefLead ++ d ++ ':' :: licenseRefLead ++ name

namespace Simple

def render : Simple → Text
  | .id n later => if later then n ++ ['+'] else n
  | .ref n d => refText n d

/-- The name that the collected identifiers use: without the or-later mark. -/
def name : Simple → Text
  | .id n _ => n
  | .ref n d => refText n d

end Simple

namespace Expr

def parens (t : Text) : Text := '(' :: t ++ [')']

def isOr : Expr → Bool
  | .or _ _ => true
  | _ => false

def isCompound : Expr → Bool
  | .and _ _ => true
  | .or _ _ => true
  | _ => false

def wrapIf (b : Bool) (t : Text) : Text := if b then parens t else t

/-- A level takes one operator, so an operand of the same level or a looser one stands in parentheses. -/
def render : Expr → Text
  | .simple s => s.render
  | .withException s x => s.render ++ " WITH ".toList ++ x
  | .and l r => wrapIf l.isCompound l.render ++ " AND ".toList ++ wrapIf r.isCompound r.render
  | .or l r => wrapIf l.isOr l.render ++ " OR ".toList ++ wrapIf r.isOr r.render

/-- The licenses from left to right, each with its exception. -/
def leaves : Expr → List (Simple × Option Text)
  | .simple s => [(s, none)]
  | .withException s x => [(s, some x)]
  | .and l r => l.leaves ++ r.leaves
  | .or l r => l.leaves ++ r.leaves

end Expr

namespace Text

/-- Keeps an ascending list ascending and free of repetitions. -/
def insertNew (t : Text) : List Text → List Text
  | [] => [t]
  | u :: us => if t = u then u :: us else if le t u then t :: u :: us else u :: insertNew t us

def ascending (ts : List Text) : List Text := ts.foldr insertNew []

end Text

namespace Expr

def licenseIds (e : Expr) : List Text := Text.ascending (e.leaves.map (·.1.name))

def exceptionIds (e : Expr) : List Text := Text.ascending (e.leaves.filterMap (·.2))

end Expr
end Licensing
