import Licensing.Document.Compound
import Licensing.Json.Reader
import Licensing.Json.Writer
/-!
# Listings of third-party licenses

A listing names a project, the licenses of its files and the copyright statements found in them.
-/
namespace Licensing.Document

open Checked

/-- A license described by an expression, with its text as it was found. -/
structure SpdxLicense where
  rawId : Text
  expression : Compound
  includes : List Include
  deriving DecidableEq, Repr

inductive GroupLicense
  | spdx (l : SpdxLicense)
  /-- Known only by the evidence for it. -/
  | arbitrary (includes : List Include)
  deriving DecidableEq, Repr

structure Holder where
  name : Text
  email : Option Text
  deriving DecidableEq, Repr

structure Copyright where
  text : Text
  year : Option Nat
  holders : Option (List Holder)
  deriving DecidableEq, Repr

structure Project where
  id : Text
  displayName : Text
  description : Option Text
  deriving DecidableEq, Repr

/-- Files that share a license. -/
structure Group where
  files : List Text
  license : GroupLicense
  deriving DecidableEq, Repr

structure Listing where
  project : Project
  licenses : List Group
  copyrights : List Copyright
  metadata : Option Fields
  deriving DecidableEq, Repr

def typeKey : Key := .plain "type"
def rawIdKey : Key := .of "rawId" "raw_id"
def expressionKey : Key := .plain "expression"
def nameKey : Key := .plain "name"
def emailKey : Key := .plain "email"
def yearKey : Key := .plain "year"
def holdersKey : Key := .plain "holders"
def displayNameKey : Key := .of "displayName" "display_name"
def descriptionKey : Key := .plain "description"
def filesKey : Key := .plain "files"
def projectKey : Key := .plain "project"
def licensesKey : Key := .plain "licenses"
def copyrightsKey : Key := .plain "copyrights"
def metadataKey : Key := .plain "metadata"

def spdxTag : Text := "spdx".toList

def arbitraryTag : Text := "arbitrary".toList

def SpdxLicense.ofValue : Value → Checked SpdxLicense :=
  record [typeKey, rawIdKey, expressionKey, includesKey] fun fs =>
    map4 (fun _ r x i => SpdxLicense.mk r x i) (typeKey.withDefault () (exactly spdxTag) fs)
      (rawIdKey.required text fs) (expressionKey.required Compound.ofValue fs) (includesAt includesKey fs)

def arbitraryOfValue : Value → Checked (List Include) :=
  record [typeKey, includesKey] fun fs =>
    map2 (fun _ i => i) (typeKey.withDefault () (exactly arbitraryTag) fs)
      (includesKey.required (listOf Include.ofValue) fs)

/-- The field `type` tells the two kinds of license apart. -/
def GroupLicense.ofValue : Value → Checked GroupLicense
  | .record fs =>
    match fs.lookup typeKey.written with
    | none => refuse .unionTagNotFound
    | some t =>
      if t == .text spdxTag then tagged spdxTag GroupLicense.spdx (SpdxLicense.ofValue (.record fs))
      else if t == .text arbitraryTag then tagged arbitraryTag GroupLicense.arbitrary (arbitraryOfValue (.record fs))
      else refuse .unionTagInvalid
  | _ => refuse .modelAttributesType

def Holder.ofValue : Value → Checked Holder :=
  record [nameKey, emailKey] fun fs =>
    map2 Holder.mk (nameKey.required text fs) (emailKey.optional text fs)

def Copyright.ofValue : Value → Checked Copyright :=
  record [Include.textKey, yearKey, holdersKey] fun fs =>
    map3 Copyright.mk (Include.textKey.required Checked.text fs) (yearKey.optional Scalar.count fs)
      (holdersKey.optional (listOf Holder.ofValue) fs)

def Project.ofValue : Value → Checked Project :=
  record [idKey, displayNameKey, descriptionKey] fun fs =>
    map3 Project.mk (idKey.required text fs) (displayNameKey.required text fs) (descriptionKey.optional text fs)

def Group.ofValue : Value → Checked Group :=
  record [filesKey, licenseKey] fun fs =>
    map2 Group.mk (filesKey.required (listOf Include.filePath) fs) (licenseKey.required GroupLicense.ofValue fs)

def metadataOf : Value → Checked Fields
  | .record fs => .ok fs
  | _ => refuse .dictType

def Listing.ofValue : Value → Checked Listing :=
  record [projectKey, licensesKey, copyrightsKey, metadataKey] fun fs =>
    map4 Listing.mk (projectKey.required Project.ofValue fs)
      (licensesKey.withDefault [] (listOf Group.ofValue) fs)
      (copyrightsKey.withDefault [] (listOf Copyright.ofValue) fs) (metadataKey.optional metadataOf fs)

def SpdxLicense.toValue (l : SpdxLicense) : Value :=
  .record (fieldsOf [(typeKey, some (.text spdxTag)), (rawIdKey, some (.text l.rawId)),
    (expressionKey, some l.expression.toValue), (includesKey, some (Include.listValue l.includes))])

def arbitraryToValue (includes : List Include) : Value :=
  .record (fieldsOf [(typeKey, some (.text arbitraryTag)), (includesKey, some (Include.listValue includes))])

def GroupLicense.toValue : GroupLicense → Value
  | .spdx l => l.toValue
  | .arbitrary is => arbitraryToValue is

def Holder.toValue (h : Holder) : Value :=
  .record (fieldsOf [(nameKey, some (.text h.name)), (emailKey, h.email.map .text)])

def Copyright.toValue (c : Copyright) : Value :=
  .record (fieldsOf [(Include.textKey, some (.text c.text)), (yearKey, c.year.map fun n : Nat => .int n),
    (holdersKey, c.holders.map fun hs => .list (hs.map Holder.toValue))])

def Project.toValue (p : Project) : Value :=
  .record (fieldsOf [(idKey, some (.text p.id)), (displayNameKey, some (.text p.displayName)),
    (descriptionKey, p.description.map .text)])

def Group.toValue (g : Group) : Value :=
  .record (fieldsOf [(filesKey, some (.list (g.files.map fun p => (Include.file p).toValue))),
    (licenseKey, some g.license.toValue)])

def Listing.toValue (l : Listing) : Value :=
  .record (fieldsOf [(projectKey, some l.project.toValue), (licensesKey, some (.list (l.licenses.map Group.toValue))),
    (copyrightsKey, some (.list (l.copyrights.map Copyright.toValue))), (metadataKey, l.metadata.map .record)])

end Licensing.Document
