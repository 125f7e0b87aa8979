import Licensing.Text
/-!
# Binary floating-point numbers

A 64-bit number is a sign, a significand of at most 53 bits and a power of two, or one of the infinities, or no number.
Reading rounds an exact quotient to the nearest, a tie going to the even significand.  Writing takes the fewest decimal
digits that read back, and among those the nearest.
-/
namespace Licensing

inductive Binary64
  | finite (negative : Bool) (significand : Nat) (exponent : Int)
  | infinite (negative : Bool)
  | nan
  deriving DecidableEq, Repr

namespace Binary64

def minExponent : Int := -1074

def maxExponent : Int := 971

def zero (negative : Bool) : Binary64 := .finite negative 0 minExponent

def pack (negative : Bool) (m : Nat) (e : Int) : Binary64 :=
  if maxExponent < e then .infinite negative else .finite negative m e

/-- A quotient rounded to the nearest natural number, a tie to the even one. -/
def roundDiv (n d : Nat) : Nat :=
  if 2 * (n % d) < d then n / d
  else if d < 2 * (n % d) then n / d + 1
  else n / d + n / d % 2

/-- The quotient `n / d` in units of `2 ^ e`, again as a quotient. -/
def inUnits (n d : Nat) (e : Int) : Nat × Nat :=
  if 0 ≤ e then (n, d * Nat.pow 2 e.toNat) else (n * Nat.pow 2 (-e).toNat, d)

/-- The number nearest to `n / d`. -/
def ofRatio (negative : Bool) (n d : Nat) : Binary64 :=
  if n = 0 then zero negative else
    let guess : Int := n.log2 - d.log2 - 52
    let q := inUnits n d guess
    let e := max minExponent (if q.1 / q.2 < Nat.pow 2 52 then guess - 1 else guess)
    let q := inUnits n d e
    let m := roundDiv q.1 q.2
    if m = Nat.pow 2 53 then pack negative (Nat.pow 2 52) (e + 1) else pack negative m e

/-- The number nearest to `digits * 10 ^ e`; far outside the range there is nothing to compute. -/
def ofDecimal (negative : Bool) (digits : Nat) (e : Int) : Binary64 :=
  if digits = 0 then zero negative
  else if 400 < e + (Text.ofNat digits).length then .infinite negative
  else if e + (Text.ofNat digits).length < -400 then zero negative
  else if 0 ≤ e then ofRatio negative (digits * Nat.pow 10 e.toNat) 1
  else ofRatio negative digits (Nat.pow 10 (-e).toNat)

/-- The magnitude as a quotient. -/
def ratio (m : Nat) (e : Int) : Nat × Nat :=
  if 0 ≤ e then (m * Nat.pow 2 e.toNat, 1) else (m, Nat.pow 2 (-e).toNat)

/-- The least number of places by which `n / d` must be moved to the left to reach one. -/
def leadingZeros (n d : Nat) : Nat → Nat
  | 0 => 0
  | fuel + 1 => if d ≤ n then 0 else leadingZeros (n * 10) d fuel + 1

/-- Where the decimal point stands: `10 ^ (k - 1) ≤ n / d < 10 ^ k`. -/
def pointOf (n d : Nat) : Int :=
  if d ≤ n then (Text.ofNat (n / d)).length else 1 - leadingZeros n d 400

/-- The two neighbours of `n / d` among the multiples of `10 ^ e`, the nearer one first. -/
def neighbours (n d : Nat) (e : Int) : List Nat :=
  let q := if 0 ≤ e then (n, d * Nat.pow 10 e.toNat) else (n * Nat.pow 10 (-e).toNat, d)
  let lower := q.1 / q.2
  if roundDiv q.1 q.2 = lower then [lower, lower + 1] else [lower + 1, lower]

/-- Digits and exponent of the first grid, from `places` digits on, on which a neighbour reads back. -/
def search (m : Nat) (e : Int) (n d : Nat) (point : Int) : Nat → Nat → Option (Nat × Int)
  | _, 0 => none
  | places, fuel + 1 =>
    let unit := point - places
    match (neighbours n d unit).find? fun c => ofDecimal false c unit = .finite false m e with
    | some c => some (c, unit)
    | none => search m e n d point (places + 1) fuel

/-- All the digits of `m * 2 ^ e`. -/
def exactDecimal (m : Nat) (e : Int) : Nat × Int :=
  if 0 ≤ e then (m * Nat.pow 2 e.toNat, 0) else (m * Nat.pow 5 (-e).toNat, e)

def dropZeros : Nat → Nat × Int → Nat × Int
  | 0, p => p
  | fuel + 1, (c, e) => if c ≠ 0 && c % 10 = 0 then dropZeros fuel (c / 10, e + 1) else (c, e)

/-- The shortest decimal that reads back: its digits without trailing zeros, and their power of ten. -/
def shortest (m : Nat) (e : Int) : Nat × Int :=
  let q := ratio m e
  dropZeros 17 ((search m e q.1 q.2 (pointOf q.1 q.2) 1 17).getD (exactDecimal m e))

def zeros (n : Nat) : Text := List.replicate n '0'

/-- Plain notation from four zeros behind the point up to sixteen digits before it, else an exponent of two digits or
more. -/
def layout (digits : Text) (point : Int) : Text :=
  if -4 < point && point ≤ 16 then
    if point ≤ 0 then "0.".toList ++ zeros (-point).toNat ++ digits
    else if digits.length ≤ point.toNat then digits ++ zeros (point.toNat - digits.length) ++ ".0".toList
    else digits.take point.toNat ++ '.' :: digits.drop point.toNat
  else
    let power := Text.ofNat (point - 1).natAbs
    digits.take 1 ++ (if digits.length ≤ 1 then [] else '.' :: digits.drop 1) ++
      ['e', if point - 1 < 0 then '-' else '+'] ++ zeros (2 - power.length) ++ power

def magnitude (m : Nat) (e : Int) : Text :=
  if m = 0 then "0.0".toList
  else
    let s := shortest m e
    let digits := Text.ofNat s.1
    layout digits (s.2 + digits.length)

def sign (negative : Bool) : Text := if negative then ['-'] else []

def render : Binary64 → Text
  | .finite negative m e => sign negative ++ magnitude m e
  | .infinite negative => sign negative ++ "inf".toList
  | .nan => "nan".toList

end Binary64
end Licensing
