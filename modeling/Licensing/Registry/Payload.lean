import Licensing.Json.Encoding
import Licensing.Json.Reader
/-!
# Lists of identifiers

A list of identifiers is published as a JSON record with a list of entries under a key of its own, and every entry has
its identifier under another.
-/
namespace Licensing.Registry

/-- What is published. -/
inductive Listed
  | licenses
  | exceptions
  deriving DecidableEq, Repr

namespace Listed

/-- The name of the published file, and the key of the list in it. -/
def name : Listed → String
  | .licenses => "licenses"
  | .exceptions => "exceptions"

def idKey : Listed → String
  | .licenses => "licenseId"
  | .exceptions => "licenseExceptionId"

end Listed

/-- Why an address gives no bytes. -/
inductive FetchFault
  /-- The address is refused, or nothing usable answers at it. -/
  | refused (message : Text)
  /-- A failure that no message is made for. -/
  | broken
  deriving DecidableEq, Repr

/-- Why no identifiers can be read. -/
inductive PayloadFault
  | unfetched (f : FetchFault)
  | undecodable (d : Json.Damage)
  | malformed (w : Wide) (e : Json.Error)
  /-- Too many brackets are open at once. -/
  | tooDeep
  | missingKey (key : Text)
  /-- The whole is no record. -/
  | notRecord (v : Value Wide)
  /-- What stands for the list cannot be gone through. -/
  | notList (v : Value Wide)
  /-- An entry has no keys. -/
  | notEntry (v : Value Wide)
  deriving DecidableEq, Repr

/-- The message of a fault that is reported. -/
def PayloadFault.message? : PayloadFault → Option Text
  | .unfetched (.refused m) => some m
  | .undecodable d => some d.message
  | .malformed w e => some (e.message w)
  | .missingKey k => some (Text.quoted k)
  | _ => none

/-- The entries of a list.  A text is a list of its points, and a record one of its keys. -/
def entries : Value Wide → Except PayloadFault (List (Value Wide))
  | .list vs => .ok vs
  | .text w => .ok (w.map fun p => .text [p])
  | .record fs => .ok (fs.map fun f => .text f.1)
  | v => .error (.notList v)

def entryId (key : Text) : Value Wide → Except PayloadFault (Value Wide)
  | .record fs =>
    match fs.lookup (Wide.ofText key) with
    | some v => .ok v
    | none => .error (.missingKey key)
  | v => .error (.notEntry v)

/-- All identifiers, or the fault of the first entry that has none. -/
def entryIds (key : Text) : List (Value Wide) → Except PayloadFault (List (Value Wide))
  | [] => .ok []
  | v :: vs =>
    match entryId key v with
    | .error f => .error f
    | .ok i => (entryIds key vs).map (i :: ·)

/-- The identifiers in a value; a missing list is empty. -/
def idsOfValue (l : Listed) : Value Wide → Except PayloadFault (List (Value Wide))
  | .record fs =>
    (entries ((fs.lookup (Wide.ofText l.name.toList)).getD (.list []))).bind (entryIds l.idKey.toList)
  | v => .error (.notRecord v)

/-- The identifiers in a published file, in which so many brackets may be open at once. -/
def idsOfBytes (brackets : Nat) (l : Listed) (bs : Bytes) : Except PayloadFault (List (Value Wide)) :=
  match Json.decode bs with
  | .error d => .error (.undecodable d)
  | .ok w =>
    match Json.readWide brackets w with
    | .error ⟨.tooDeep, _⟩ => .error .tooDeep
    | .error e => .error (.malformed w e)
    | .ok v => idsOfValue l v

end Licensing.Registry
