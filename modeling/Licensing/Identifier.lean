import Licensing.Expr
import Licensing.ParseError
import Licensing.Registry.Identifiers
import Licensing.Text.Printable
/-!
# Identifiers

The texts of single tokens: license and exception identifiers of the registry, and references to licenses that a
document defines.  The offsets of errors count from the start of the token.
-/
namespace Licensing.Identifier

def isIdChar (c : Char) : Bool := c.isAlphanum || c == '-' || c == '.'

/-- The first character that no idstring holds, with its offset. -/
def firstIllegal? : Nat → Text → Option (Nat × Char)
  | _, [] => none
  | k, c :: t => if isIdChar c then firstIllegal? (k + 1) t else some (k, c)

def idString (t : Text) : Except ParseError Text :=
  if t.isEmpty then
    .error (.of .lessThanMinimumCharacterLength t 0 "idstring must not be empty".toList)
  else match firstIllegal? 0 t with
    | some (k, c) =>
      .error (.of .illegalCharacter t k
        ("illegal character ".toList ++ Text.quoted [c] ++ " in idstring".toList))
    | none => .ok t

/-- An idstring that begins at `offset` of a larger text. -/
def idStringAt (whole : Text) (offset : Nat) (t : Text) : Except ParseError Text :=
  (idString t).mapError (·.relocate whole offset)

/-- The rest of a reference once its document part, if there is one, has been read up to `offset`. -/
def licenseRefFrom (whole : Text) (document : Option Text) (offset : Nat) (t : Text) :
    Except ParseError Simple :=
  match Text.after? licenseRefLead t with
  | none =>
    .error (.of .missingLicenseRefPrefix whole offset ("expected ".toList ++ Text.quoted licenseRefLead))
  | some name => do
    let name ← idStringAt whole (offset + licenseRefLead.length) name
    return .ref name document

def licenseRef (t : Text) : Except ParseError Simple :=
  match Text.after? documentRefLead t with
  | none => licenseRefFrom t none 0 t
  | some r =>
    match Text.cut? [':'] r with
    | none =>
      .error (.of .missingColonAfterDocumentRef t t.length "expected \":\" after DocumentRef idstring".toList)
    | some (document, r) => do
      let document ← idStringAt t documentRefLead.length document
      licenseRefFrom t (some document) (documentRefLead.length + document.length + 1) r

def licenseName (t : Text) : Except ParseError Text :=
  match Registry.findLicense? t with
  | some n => .ok n
  | none => .error (.of .unknownLicenseId t 0 ("unknown license identifier ".toList ++ Text.quoted t))

def licenseId (t : Text) : Except ParseError Simple :=
  (licenseName t).map (Simple.id · false)

def licenseIdAndPlus (t : Text) : Except ParseError Simple :=
  match Text.before? ['+'] t with
  | none => .error (.of .unknownLicenseId t t.length "expected \"+\" suffix".toList)
  | some n => (licenseName n).map (Simple.id · true)

def exceptionId (t : Text) : Except ParseError Text :=
  match Registry.findException? t with
  | some n => .ok n
  | none =>
    .error (.of .unknownLicenseExceptionId t 0
      ("unknown license exception identifier ".toList ++ Text.quoted t))

end Licensing.Identifier
