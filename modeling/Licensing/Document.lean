import Licensing.Document.Listing
/-!
# Documents

Every class of record that a document may be, with one reader and one writer for all of them.
-/
namespace Licensing

inductive Document
  | fileRef (path : Text)
  | inlineText (content : Text)
  | license (l : Document.License)
  | licenseRef (r : Document.LicenseRef)
  | withException (w : Document.WithException)
  | conjunction (operator : Document.Operator) (left right : Document.Compound)
  | spdxLicense (l : Document.SpdxLicense)
  | arbitraryLicense (includes : List Document.Include)
  | holder (h : Document.Holder)
  | copyright (c : Document.Copyright)
  | project (p : Document.Project)
  | group (g : Document.Group)
  | listing (l : Document.Listing)
  deriving DecidableEq, Repr

namespace Document

/-- The classes. -/
inductive Kind
  | fileRef
  | inlineText
  | license
  | licenseRef
  | withException
  | conjunction
  | spdxLicense
  | arbitraryLicense
  | holder
  | copyright
  | project
  | group
  | listing
  deriving DecidableEq, Repr

def ofCompound : Compound → Document
  | .simple (.license l) => .license l
  | .simple (.ref r) => .licenseRef r
  | .withException w => .withException w
  | .conjunction o l r => .conjunction o l r

def ofValue : Kind → Value → Checked Document
  | .fileRef, v => (Include.filePath v).map .fileRef
  | .inlineText, v => (Include.inlineText v).map .inlineText
  | .license, v => (License.ofValue v).map .license
  | .licenseRef, v => (LicenseRef.ofValue v).map .licenseRef
  | .withException, v => (WithException.ofValue v).map .withException
  | .conjunction, v => (Compound.conjunctionOfValue v).map ofCompound
  | .spdxLicense, v => (SpdxLicense.ofValue v).map .spdxLicense
  | .arbitraryLicense, v => (arbitraryOfValue v).map .arbitraryLicense
  | .holder, v => (Holder.ofValue v).map .holder
  | .copyright, v => (Copyright.ofValue v).map .copyright
  | .project, v => (Project.ofValue v).map .project
  | .group, v => (Group.ofValue v).map .group
  | .listing, v => (Listing.ofValue v).map .listing

def toValue : Document → Value
  | .fileRef p => (Include.file p).toValue
  | .inlineText t => (Include.text t).toValue
  | .license l => l.toValue
  | .licenseRef r => r.toValue
  | .withException w => w.toValue
  | .conjunction o l r => (Compound.conjunction o l r).toValue
  | .spdxLicense l => l.toValue
  | .arbitraryLicense is => arbitraryToValue is
  | .holder h => h.toValue
  | .copyright c => c.toValue
  | .project p => p.toValue
  | .group g => g.toValue
  | .listing l => l.toValue

/-- The text of a value: on one line, or indented. -/
def textOf (indent : Option Nat) (v : Value) : Text := Json.render (.ofIndent indent) v

def toJson (indent : Option Nat) (d : Document) : Text := textOf indent d.toValue

def ofJson (k : Kind) (t : Text) : Checked Document :=
  match Json.read t with
  | .ok v => ofValue k v
  | .error _ => Checked.refuse .jsonInvalid

end Document
end Licensing
