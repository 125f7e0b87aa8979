/-!
# Texts

A text is a list of Unicode scalar values, so offsets, lengths and cursors count characters.  Here are the cuts and
joins the rest of the library is made of, lines, and sets of characters.
-/
namespace Licensing

abbrev Text := List Char

namespace Text

def isAscii (t : Text) : Bool := t.all (fun c => c.toNat < 128)

/-- What follows `lead` in a text that begins with it. -/
def after? : Text → Text → Option Text
  | [], t => some t
  | _ :: _, [] => none
  | c :: l, d :: t => if c = d then after? l t else none

def startsWith (t lead : Text) : Bool := (after? lead t).isSome

/-- What stands before `tail` in a text that ends with it. -/
def before? (tail t : Text) : Option Text := (after? tail.reverse t.reverse).map List.reverse

/-- The text on either side of the leftmost occurrence of `needle`. -/
def cut? (needle : Text) : Text → Option (Text × Text)
  | [] => (after? needle []).map fun r => ([], r)
  | c :: t =>
    match after? needle (c :: t) with
    | some r => some ([], r)
    | none => (cut? needle t).map fun p => (c :: p.1, p.2)

/-- The pieces between the separators: always one more than there are separators. -/
def splitAt (sep : Char) : Text → List Text
  | [] => [[]]
  | c :: t =>
    if c = sep then [] :: splitAt sep t
    else match splitAt sep t with
      | [] => [[c]]
      | p :: ps => (c :: p) :: ps

def join (sep : Text) (ts : List Text) : Text := sep.intercalate ts

def spaces (n : Nat) : Text := List.replicate n ' '

/-- Fills up with spaces on the right to at least `n` characters. -/
def padTo (n : Nat) (t : Text) : Text := t ++ spaces (n - t.length)

/-- The code-point order. -/
def le : Text → Text → Bool
  | [], _ => true
  | _ :: _, [] => false
  | c :: s, d :: t => if c = d then le s t else c.toNat < d.toNat

def ofNat (n : Nat) : Text := Nat.toDigits 10 n

def ofInt : Int → Text
  | .ofNat n => ofNat n
  | .negSucc n => '-' :: ofNat (n + 1)

/-- The last `width` hexadecimal digits of a number, in lower case. -/
def hex : Nat → Nat → Text
  | 0, _ => []
  | w + 1, n => hex w (n / 16) ++ [Nat.digitChar (n % 16)]

/-! ## Lines

A line ends at a line feed, a carriage return, or a carriage return and a line feed together. -/

/-- Every end of a line becomes a line feed. -/
def unifyEnds : Text → Text
  | [] => []
  | '\r' :: '\n' :: t => '\n' :: unifyEnds t
  | c :: t => (if c = '\r' then '\n' else c) :: unifyEnds t

/-- What stands behind the last end is a line unless it is empty. -/
def dropLastEmpty : List Text → List Text
  | [] => []
  | [l] => if l.isEmpty then [] else [l]
  | l :: ls => l :: dropLastEmpty ls

def lines (t : Text) : List Text := dropLastEmpty (splitAt '\n' (unifyEnds t))

/-! ## Sets of characters -/

/-- An ascending list of inclusive ranges of code points. -/
abbrev Ranges := List (Nat × Nat)

/-- The ranges ascend, so the search stops at the first one that ends at or after the code point. -/
def Ranges.mem : Ranges → Nat → Bool
  | [], _ => false
  | (lo, hi) :: rs, n => if n ≤ hi then lo ≤ n else Ranges.mem rs n

end Text
end Licensing
