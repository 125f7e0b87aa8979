import Licensing.Document.Listing
import Licensing.Grammar
/-!
# Expressions to documents and back

Encoding attaches to every license and exception the evidence that is filed under its identifier.  Decoding checks
every identifier again.
-/
namespace Licensing.Document

/-- Evidence by identifier. -/
abbrev Evidence := List (Text × List Include)

def Evidence.for (m : Evidence) (id : Text) : List Include := (m.lookup id).getD []

def Simple.ofLicense (m : Evidence) : Licensing.Simple → Simple
  | .id n later => .license ⟨n, if later then some true else none, m.for n⟩
  | .ref n d => .ref ⟨n, d, m.for (refText n d)⟩

def Compound.ofExpr (m : Evidence) : Expr → Compound
  | .simple s => .simple (.ofLicense m s)
  | .withException s x => .withException ⟨.ofLicense m s, x, m.for x⟩
  | .and l r => .conjunction .and (ofExpr m l) (ofExpr m r)
  | .or l r => .conjunction .or (ofExpr m l) (ofExpr m r)

def documentName : Option Text → Except ParseError (Option Text)
  | none => .ok none
  | some d => (Identifier.idString d).map some

def Simple.toLicense : Simple → Except ParseError Licensing.Simple
  | .license l => do
    let n ← Identifier.licenseName l.id
    return .id n (l.laterVersions.getD false)
  | .ref r => do
    let n ← Identifier.idString r.name
    let d ← documentName r.document
    return .ref n d

def Operator.join : Operator → Expr → Expr → Expr
  | .and => .and
  | .or => .or

/-- The first identifier that is refused, from left to right, is the error. -/
def Compound.toExpr : Compound → Except ParseError Expr
  | .simple s => s.toLicense.map .simple
  | .withException w => do
    let s ← w.license.toLicense
    let x ← Identifier.exceptionId w.exceptionId
    return .withException s x
  | .conjunction o l r => do
    let l ← l.toExpr
    let r ← r.toExpr
    return o.join l r

/-- Reads an expression and keeps its text beside it. -/
def SpdxLicense.ofText [Grammar.Stack] (text : Text) (m : Evidence) (maxDepth : Option Int) (evidence : List Include) :
    Except ParseError SpdxLicense :=
  (Grammar.parse text maxDepth).map fun e => ⟨text, .ofExpr m e, evidence⟩

end Licensing.Document
