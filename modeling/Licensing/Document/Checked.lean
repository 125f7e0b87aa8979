import Licensing.Value
/-!
# Checked data

A check either accepts a value or lists everything that is wrong with it, each problem with its place.  Independent
checks are run side by side, so no problem hides another.
-/
namespace Licensing.Document

inductive ProblemKind
  | missing
  | extraForbidden
  | modelType
  | modelAttributesType
  | dictType
  | listType
  | stringType
  | literalError
  | boolType
  | boolParsing
  | intType
  | intParsing
  | intParsingSize
  | intFromFloat
  | finiteNumber
  | greaterThanEqual
  | unionTagNotFound
  | unionTagInvalid
  | jsonInvalid
  deriving DecidableEq, Repr

def ProblemKind.name : ProblemKind → String
  | .missing => "missing"
  | .extraForbidden => "extra_forbidden"
  | .modelType => "model_type"
  | .modelAttributesType => "model_attributes_type"
  | .dictType => "dict_type"
  | .listType => "list_type"
  | .stringType => "string_type"
  | .literalError => "literal_error"
  | .boolType => "bool_type"
  | .boolParsing => "bool_parsing"
  | .intType => "int_type"
  | .intParsing => "int_parsing"
  | .intParsingSize => "int_parsing_size"
  | .intFromFloat => "int_from_float"
  | .finiteNumber => "finite_number"
  | .greaterThanEqual => "greater_than_equal"
  | .unionTagNotFound => "union_tag_not_found"
  | .unionTagInvalid => "union_tag_invalid"
  | .jsonInvalid => "json_invalid"

/-- What is wrong, and the keys, indexes and tags that lead to it. -/
structure Problem where
  place : List Text
  kind : ProblemKind
  deriving DecidableEq, Repr

abbrev Checked (α : Type) := Except (List Problem) α

namespace Checked

variable {α β γ δ ε : Type}

def refuse (kind : ProblemKind) : Checked α := .error [⟨[], kind⟩]

/-- Moves the problems one step down. -/
def under (key : Text) : Checked α → Checked α
  | .ok a => .ok a
  | .error ps => .error (ps.map fun p => { p with place := key :: p.place })

/-- A check of one member of a union, whose tag is part of the place. -/
def tagged (tag : Text) (f : α → β) (c : Checked α) : Checked β := under tag (c.map f)

/-- Both checks, and the problems of both. -/
def both : Checked α → Checked β → Checked (α × β)
  | .ok a, .ok b => .ok (a, b)
  | .ok _, .error qs => .error qs
  | .error ps, .ok _ => .error ps
  | .error ps, .error qs => .error (ps ++ qs)

def map2 (f : α → β → γ) (a : Checked α) (b : Checked β) : Checked γ :=
  (both a b).map fun p => f p.1 p.2

def map3 (f : α → β → γ → δ) (a : Checked α) (b : Checked β) (c : Checked γ) : Checked δ :=
  (both a (both b c)).map fun p => f p.1 p.2.1 p.2.2

def map4 (f : α → β → γ → δ → ε) (a : Checked α) (b : Checked β) (c : Checked γ) (d : Checked δ) : Checked ε :=
  (both a (both b (both c d))).map fun p => f p.1 p.2.1 p.2.2.1 p.2.2.2

/-- Checks the items of a list, the first of which has index `k`. -/
def items (check : Value → Checked α) : Nat → List Value → Checked (List α)
  | _, [] => .ok []
  | k, v :: vs => map2 List.cons (under (Text.ofNat k) (check v)) (items check (k + 1) vs)

def listOf (check : Value → Checked α) : Value → Checked (List α)
  | .list vs => items check 0 vs
  | _ => refuse .listType

def text : Value → Checked Text
  | .text t => .ok t
  | _ => refuse .stringType

/-- The one text that is allowed. -/
def exactly (word : Text) : Value → Checked Unit
  | .text t => if t = word then .ok () else refuse .literalError
  | _ => refuse .literalError

end Checked

/-- A field has two spellings and is written in the first.  If a record holds both, the first is the field and the
second does not belong. -/
structure Key where
  written : Text
  name : Text
  deriving DecidableEq, Repr

namespace Key

variable {α β : Type}

def of (written name : String) : Key := ⟨written.toList, name.toList⟩

def plain (s : String) : Key := ⟨s.toList, s.toList⟩

/-- The value of a field, with the spelling under which it was found. -/
def find? (k : Key) (fs : List (Text × β)) : Option (Text × β) :=
  match fs.lookup k.written with
  | some v => some (k.written, v)
  | none => (fs.lookup k.name).map fun v => (k.name, v)

/-- A field that must be there. -/
def required (k : Key) (check : β → Checked α) (fs : List (Text × β)) : Checked α :=
  match k.find? fs with
  | none => .error [⟨[k.written], .missing⟩]
  | some (found, v) => Checked.under found (check v)

/-- A field that has a value of its own when it is absent. -/
def withDefault (k : Key) (default : α) (check : β → Checked α) (fs : List (Text × β)) : Checked α :=
  match k.find? fs with
  | none => .ok default
  | some (found, v) => Checked.under found (check v)

/-- A check that lets null stand for nothing. -/
def orNull (check : Value → Checked α) : Value → Checked (Option α)
  | .null => .ok none
  | v => (check v).map some

/-- A field that may be absent or null. -/
def optional (k : Key) (check : Value → Checked α) (fs : Fields) : Checked (Option α) :=
  k.withDefault none (orNull check) fs

/-- The spellings that belong to a record. -/
def used (keys : List Key) (fs : List (Text × β)) : List Text :=
  keys.filterMap fun k => (k.find? fs).map (·.1)

/-- Every field that does not belong is a problem. -/
def closed (keys : List Key) (fs : List (Text × β)) : Checked Unit :=
  match (fs.map (·.1)).filter (fun k => !(used keys fs).contains k) with
  | [] => .ok ()
  | extra => .error (extra.map fun k => ⟨[k], .extraForbidden⟩)

end Key

namespace Checked

variable {α : Type}

/-- A record with these keys and no others. -/
def record (keys : List Key) (body : Fields → Checked α) : Value → Checked α
  | .record fs => map2 (fun a _ => a) (body fs) (Key.closed keys fs)
  | _ => refuse .modelType

end Checked

namespace Problem

def placeLe : List Text → List Text → Bool
  | [], _ => true
  | _ :: _, [] => false
  | s :: p, t :: q => if s = t then placeLe p q else Text.le s t

/-- By place, and problems at one place by kind. -/
def le (p q : Problem) : Bool :=
  if p.place = q.place then Text.le p.kind.name.toList q.kind.name.toList else placeLe p.place q.place

def insert (p : Problem) : List Problem → List Problem
  | [] => [p]
  | q :: qs => if p.le q then p :: q :: qs else q :: insert p qs

def sorted (ps : List Problem) : List Problem := ps.foldr insert []

end Problem

/-- The fields of a record, without those that have no value. -/
def fieldsOf (fs : List (Key × Option Value)) : Fields :=
  fs.filterMap fun p => p.2.map fun v => (p.1.written, v)

end Licensing.Document
