import Licensing.Value
/-!
# Tables under construction

Headers and dotted keys build one tree of tables.  Each table remembers how it came to be, since that decides whether
it may be named again.
-/
namespace Licensing.Toml

inductive Origin
  /-- Named only on the way to another table. -/
  | passing
  | header
  | dotted
  deriving DecidableEq, Repr

inductive Entry
  | leaf (v : Value)
  | table (origin : Origin) (entries : List (Text × Entry))
  /-- An array of tables, the latest first. -/
  | tables (latest : List (Text × Entry)) (earlier : List (List (Text × Entry)))
  deriving Inhabited, Repr

abbrev Entries := List (Text × Entry)

namespace Entries

/-- Puts an entry in the place of the one under its key, or at the end. -/
def put (key : Text) (e : Entry) : Entries → Entries
  | [] => [(key, e)]
  | (k, f) :: es => if k = key then (k, e) :: es else (k, f) :: put key e es

/-- Gives a new key, dotted or plain, its value. -/
def define (v : Value) : List Text → Entries → Option Entries
  | [], _ => none
  | [k], es =>
    match es.lookup k with
    | none => some (put k (.leaf v) es)
    | some _ => none
  | k :: ks, es =>
    match es.lookup k with
    | none => (define v ks []).map fun sub => put k (.table .dotted sub) es
    | some (.table .dotted sub) => (define v ks sub).map fun sub => put k (.table .dotted sub) es
    | some _ => none

/-- Changes the table at a path that headers lead to; of an array of tables this is the latest. -/
def modify (f : Entries → Option Entries) : List Text → Entries → Option Entries
  | [], es => f es
  | k :: ks, es =>
    match es.lookup k with
    | none => (modify f ks []).map fun sub => put k (.table .passing sub) es
    | some (.table o sub) => (modify f ks sub).map fun sub => put k (.table o sub) es
    | some (.tables latest earlier) => (modify f ks latest).map fun sub => put k (.tables sub earlier) es
    | some (.leaf _) => none

/-- Opens the table of a header. -/
def openTable (k : Text) (es : Entries) : Option Entries :=
  match es.lookup k with
  | none => some (put k (.table .header []) es)
  | some (.table .passing sub) => some (put k (.table .header sub) es)
  | some _ => none

/-- Opens the next table of an array. -/
def openNext (k : Text) (es : Entries) : Option Entries :=
  match es.lookup k with
  | none => some (put k (.tables [] []) es)
  | some (.tables latest earlier) => some (put k (.tables [] (latest :: earlier)) es)
  | some _ => none

/-- Applies a change to the table that holds the last key of a path. -/
def atLast (f : Text → Entries → Option Entries) (path : List Text) (es : Entries) : Option Entries :=
  match path.getLast? with
  | none => none
  | some k => modify (f k) path.dropLast es

end Entries

mutual

def Entry.value : Entry → Value
  | .leaf v => v
  | .table _ es => .record (fieldsOf es)
  | .tables latest earlier => .list (recordsOf earlier [.record (fieldsOf latest)])

def fieldsOf : List (Text × Entry) → Fields
  | [] => []
  | (k, e) :: es => (k, e.value) :: fieldsOf es

/-- The records of earlier tables, in front of `later`. -/
def recordsOf : List (List (Text × Entry)) → List Value → List Value
  | [], later => later
  | es :: more, later => recordsOf more (.record (fieldsOf es) :: later)

end

end Licensing.Toml
