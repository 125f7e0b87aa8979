import Licensing.Document.Scalar
/-!
# Expressions as documents

Licenses, references, a license with an exception, and conjunctions, each with the evidence for its own identifier.
Which of these shapes a record has is told by the fields it holds.
-/
namespace Licensing.Document

/-! ## Included evidence

An item of evidence is a file, named by its path, or a text that is quoted in full. -/

inductive Include
  | file (path : Text)
  | text (content : Text)
  deriving DecidableEq, Repr

namespace Include

def pathKey : Key := .plain "path"

def textKey : Key := .plain "text"

def filePath : Value → Checked Text :=
  Checked.record [pathKey] (pathKey.required Checked.text)

def inlineText : Value → Checked Text :=
  Checked.record [textKey] (textKey.required Checked.text)

/-- A record with a path is a file, and anything else is read as a text. -/
def isFile : Value → Bool
  | .record fs => (fs.lookup pathKey.written).isSome
  | _ => false

def ofValue (v : Value) : Checked Include :=
  if isFile v then Checked.tagged "file".toList Include.file (filePath v)
  else Checked.tagged "text".toList Include.text (inlineText v)

def toValue : Include → Value
  | .file p => .record [(pathKey.written, .text p)]
  | .text t => .record [(textKey.written, .text t)]

def listValue (is : List Include) : Value := .list (is.map toValue)

end Include

/-! ## Expressions -/

open Checked

structure License where
  id : Text
  laterVersions : Option Bool
  includes : List Include
  deriving DecidableEq, Repr

structure LicenseRef where
  name : Text
  document : Option Text
  includes : List Include
  deriving DecidableEq, Repr

inductive Simple
  | license (l : License)
  | ref (r : LicenseRef)
  deriving DecidableEq, Repr

structure WithException where
  license : Simple
  exceptionId : Text
  includes : List Include
  deriving DecidableEq, Repr

inductive Operator
  | and
  | or
  deriving DecidableEq, Repr

inductive Compound
  | simple (s : Simple)
  | withException (w : WithException)
  | conjunction (operator : Operator) (left right : Compound)
  deriving DecidableEq, Repr

def Operator.word : Operator → Text
  | .and => "AND".toList
  | .or => "OR".toList

def withWord : Text := "WITH".toList

def idKey : Key := .plain "id"
def laterVersionsKey : Key := .of "includesLaterVersions" "includes_later_versions"
def includesKey : Key := .plain "includes"
def licenseRefKey : Key := .of "licenseRef" "license_ref"
def documentRefKey : Key := .of "documentRef" "document_ref"
def conjunctionKey : Key := .plain "conjunction"
def licenseKey : Key := .plain "license"
def exceptionIdKey : Key := .of "exceptionId" "exception_id"
def exceptionIncludesKey : Key := .of "exceptionIncludes" "exception_includes"
def leftKey : Key := .plain "left"
def rightKey : Key := .plain "right"

/-- A list of evidence that is empty when it is absent. -/
def includesAt (k : Key) (fs : Fields) : Checked (List Include) :=
  k.withDefault [] (listOf Include.ofValue) fs

def License.ofValue : Value → Checked License :=
  record [idKey, laterVersionsKey, includesKey] fun fs =>
    map3 License.mk (idKey.required text fs) (laterVersionsKey.optional Scalar.bool fs) (includesAt includesKey fs)

def LicenseRef.ofValue : Value → Checked LicenseRef :=
  record [licenseRefKey, documentRefKey, includesKey] fun fs =>
    map3 LicenseRef.mk (licenseRefKey.required text fs) (documentRefKey.optional text fs) (includesAt includesKey fs)

namespace Simple

def hasRef : Value → Bool
  | .record fs => (licenseRefKey.find? fs).isSome
  | _ => false

def licenseTag : Text := "license".toList

def refTag : Text := "licenseRef".toList

/-- A record with a reference is a reference, and anything else is read as a license. -/
def ofValue (v : Value) : Checked Simple :=
  if hasRef v then tagged refTag Simple.ref (LicenseRef.ofValue v)
  else tagged licenseTag Simple.license (License.ofValue v)

end Simple

def WithException.ofValue : Value → Checked WithException :=
  record [conjunctionKey, licenseKey, exceptionIdKey, exceptionIncludesKey] fun fs =>
    map4 (fun _ l x i => WithException.mk l x i) (conjunctionKey.withDefault () (exactly withWord) fs)
      (licenseKey.required Simple.ofValue fs) (exceptionIdKey.required text fs) (includesAt exceptionIncludesKey fs)

def Operator.ofValue : Value → Checked Operator
  | .text t =>
    if t = Operator.and.word then .ok .and else if t = Operator.or.word then .ok .or else refuse .literalError
  | _ => refuse .literalError

namespace Compound

def withTag : Text := "with".toList

def conjunctionTag : Text := "conjunction".toList

/-- Two operands, whose checks stand in `operands` under the keys of the record. -/
def conjunctionOf (fs : Fields) (operands : List (Text × Checked Compound)) : Checked Compound :=
  map2 (fun c _ => c)
    (map3 conjunction (conjunctionKey.required Operator.ofValue fs) (leftKey.required id operands)
      (rightKey.required id operands))
    (Key.closed [conjunctionKey, leftKey, rightKey] fs)

/-- What the field `conjunction` says about the shape of a record. -/
inductive Shape
  | simple
  | withException
  | conjunction
  | unknown
  deriving DecidableEq, Repr

def shapeOf (fs : Fields) : Shape :=
  match fs.lookup conjunctionKey.written with
  | none => .simple
  | some .null => .simple
  | some (.text t) =>
    if t = withWord then .withException
    else if t = Operator.and.word || t = Operator.or.word then .conjunction
    else .unknown
  | some _ => .unknown

mutual

def ofValue : Value → Checked Compound
  | .record fs =>
    match shapeOf fs with
    | .simple => (Simple.ofValue (.record fs)).map .simple
    | .withException => tagged withTag withException (WithException.ofValue (.record fs))
    | .conjunction => under conjunctionTag (conjunctionOf fs (ofFields fs))
    | .unknown => refuse .unionTagNotFound
  | v => (Simple.ofValue v).map .simple

/-- The checks of the operands that the fields of a record would be. -/
def ofFields : List (Text × Value) → List (Text × Checked Compound)
  | [] => []
  | (k, v) :: fs => (k, ofValue v) :: ofFields fs

end

/-- A record that is known to be a conjunction. -/
def conjunctionOfValue : Value → Checked Compound
  | .record fs => conjunctionOf fs (ofFields fs)
  | _ => refuse .modelType

end Compound

def License.toValue (l : License) : Value :=
  .record (fieldsOf [(idKey, some (.text l.id)), (laterVersionsKey, l.laterVersions.map .bool),
    (includesKey, some (Include.listValue l.includes))])

def LicenseRef.toValue (r : LicenseRef) : Value :=
  .record (fieldsOf [(licenseRefKey, some (.text r.name)), (documentRefKey, r.document.map .text),
    (includesKey, some (Include.listValue r.includes))])

def Simple.toValue : Simple → Value
  | .license l => l.toValue
  | .ref r => r.toValue

def WithException.toValue (w : WithException) : Value :=
  .record (fieldsOf [(conjunctionKey, some (.text withWord)), (licenseKey, some w.license.toValue),
    (exceptionIdKey, some (.text w.exceptionId)), (exceptionIncludesKey, some (Include.listValue w.includes))])

def Compound.toValue : Compound → Value
  | .simple s => s.toValue
  | .withException w => w.toValue
  | .conjunction o l r =>
    .record (fieldsOf [(conjunctionKey, some (.text o.word)), (leftKey, some l.toValue), (rightKey, some r.toValue)])

end Licensing.Document
