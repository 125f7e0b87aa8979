import Licensing.Document.Checked
import Licensing.Text.Integer
import Licensing.Text.LetterCase
/-!
# Lenient scalars

A truth value may be written as a number or a word, and a count as a text or as a number without a fraction.
-/
namespace Licensing.Document.Scalar

open Checked

def falseWords : List Text := ["0", "off", "f", "false", "n", "no"].map String.toList

def trueWords : List Text := ["1", "on", "t", "true", "y", "yes"].map String.toList

def wordBool? (t : Text) : Option Bool :=
  let t := t.map Text.lowerAscii
  if falseWords.contains t then some false else if trueWords.contains t then some true else none

/-- The whole number that a finite number is, if it has no fraction. -/
def whole? (negative : Bool) (m : Nat) (e : Int) : Option Int :=
  let q := Binary64.ratio m e
  if q.1 % q.2 = 0 then some (if negative then -(q.1 / q.2 : Int) else q.1 / q.2) else none

def bool : Value → Checked Bool
  | .bool b => .ok b
  | .int n => if n = 0 then .ok false else if n = 1 then .ok true else refuse .boolParsing
  | .float (.finite s m e) =>
    match whole? s m e with
    | some n => if n = 0 then .ok false else if n = 1 then .ok true else refuse .boolType
    | none => refuse .boolType
  | .text t =>
    match wordBool? t with
    | some b => .ok b
    | none => refuse .boolParsing
  | _ => refuse .boolType

def isDigit (c : Char) : Bool := '0' ≤ c && c ≤ '9'

def value (ds : Text) : Nat := ds.foldl (fun n c => n * 10 + (c.toNat - 48)) 0

/-- Whole digits, whatever stands behind a point being zeros. -/
def unsigned? (t : Text) : Option Text :=
  match Text.cut? ['.'] t with
  | none => Text.digitGroups? isDigit t
  | some (ds, zs) => if zs.all (· == '0') then Text.digitGroups? isDigit ds else none

/-- Whether a number is negative, and its digits.  After a minus sign no zero may lead. -/
def wordInt? (t : Text) : Option (Bool × Text) :=
  match Text.stripSpace t with
  | '-' :: r => (unsigned? r).bind fun ds => if ds.head? = some '0' && ds ≠ ['0'] then none else some (true, ds)
  | '+' :: r => (unsigned? r).map (false, ·)
  | r => (unsigned? r).map (false, ·)

def int : Value → Checked Int
  | .int n => .ok n
  | .bool b => .ok (if b then 1 else 0)
  | .float (.finite s m e) =>
    match whole? s m e with
    | none => refuse .intFromFloat
    | some n => if n.natAbs < Nat.pow 2 63 then .ok n else refuse .intParsingSize
  | .float _ => refuse .finiteNumber
  | .text t =>
    match wordInt? t with
    | some (negative, ds) =>
      if Text.maxDigits < ds.length then refuse .intParsingSize
      else .ok (if negative then -(value ds) else value ds)
    | none => refuse .intParsing
  | _ => refuse .intType

def count (v : Value) : Checked Nat :=
  match int v with
  | .error ps => .error ps
  | .ok n => if n < 0 then refuse .greaterThanEqual else .ok n.toNat

end Licensing.Document.Scalar
