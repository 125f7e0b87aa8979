import Licensing.Text
/-!
# White space, digits and integers

People write an integer with space around it, a sign, digits of any script, and single underscores between digits.
-/
namespace Licensing.Text

/-! ## White space -/

/-- The characters that stripping removes from the ends of a text. -/
def blanks : Ranges := [
  (0x9, 0xD), (0x1C, 0x20), (0x85, 0x85), (0xA0, 0xA0), (0x1680, 0x1680), (0x2000, 0x200A),
  (0x2028, 0x2029), (0x202F, 0x202F), (0x205F, 0x205F), (0x3000, 0x3000)]

def isBlank (c : Char) : Bool := blanks.mem c.toNat

def trimStart (t : Text) : Text := t.dropWhile isBlank

def trimEnd : Text → Text
  | [] => []
  | c :: t =>
    match trimEnd t with
    | [] => if isBlank c then [] else [c]
    | r => c :: r

def trim (t : Text) : Text := trimEnd (trimStart t)

/-! ## Decimal digits -/

/-- The decimal digits of every script stand in runs of ten that begin with the script's zero.  Unicode 14. -/
def zeros : List Nat := [
  0x30, 0x660, 0x6F0, 0x7C0, 0x966, 0x9E6, 0xA66, 0xAE6, 0xB66, 0xBE6, 0xC66, 0xCE6, 0xD66, 0xDE6,
  0xE50, 0xED0, 0xF20, 0x1040, 0x1090, 0x17E0, 0x1810, 0x1946, 0x19D0, 0x1A80, 0x1A90, 0x1B50,
  0x1BB0, 0x1C40, 0x1C50, 0xA620, 0xA8D0, 0xA900, 0xA9D0, 0xA9F0, 0xAA50, 0xABF0, 0xFF10, 0x104A0,
  0x10D30, 0x11066, 0x110F0, 0x11136, 0x111D0, 0x112F0, 0x11450, 0x114D0, 0x11650, 0x116C0,
  0x11730, 0x118E0, 0x11950, 0x11C50, 0x11D50, 0x11DA0, 0x16A60, 0x16AC0, 0x16B50, 0x1D7CE,
  0x1D7D8, 0x1D7E2, 0x1D7EC, 0x1D7F6, 0x1E140, 0x1E2F0, 0x1E950, 0x1FBF0]

def digitValue? (c : Char) : Option Nat :=
  (zeros.find? fun z => z ≤ c.toNat && c.toNat < z + 10).map (c.toNat - ·)

def isDigit (c : Char) : Bool := (digitValue? c).isSome

/-- The number that a run of digits names; a character that is no digit counts as zero. -/
def digitsValue (ds : Text) : Nat := ds.foldl (fun n c => n * 10 + (digitValue? c).getD 0) 0

/-! ## Integers -/

/-- The separators of records are blank, but no space around a number. -/
def isSpace (c : Char) : Bool := isBlank c && !(0x1C ≤ c.toNat && c.toNat ≤ 0x1F)

def stripSpace (t : Text) : Text := ((t.dropWhile isSpace).reverse.dropWhile isSpace).reverse

/-- The digits of groups between single underscores. -/
def digitGroups? (isDigit : Char → Bool) (t : Text) : Option Text :=
  let gs := splitAt '_' t
  if gs.all (fun g => !g.isEmpty && g.all isDigit) then some gs.flatten else none

/-- An integer has no more digits than this. -/
def maxDigits : Nat := 4300

def natural? (t : Text) : Option Nat :=
  (digitGroups? isDigit t).bind fun ds => if maxDigits < ds.length then none else some (digitsValue ds)

def integer? (t : Text) : Option Int :=
  match stripSpace t with
  | '-' :: r => (natural? r).map fun n => -(n : Int)
  | '+' :: r => (natural? r).map fun n => (n : Int)
  | r => (natural? r).map fun n => (n : Int)

end Licensing.Text
