import Licensing.Text.Printable
import Licensing.Text.Utf8
/-!
# Texts with surrogates

The code points are the characters and the surrogates.  A surrogate is one half of a character above U+FFFF and stands
for nothing by itself, but a lenient decoder keeps those that it meets alone, in UTF-8 as well, which has no place for
them.
-/
namespace Licensing

/-! ## Surrogates

The first half of a character is high, and the second is low. -/

namespace Surrogate

def isHigh (n : Nat) : Bool := 0xD800 ≤ n && n < 0xDC00

def isLow (n : Nat) : Bool := 0xDC00 ≤ n && n < 0xE000

/-- The character of two halves. -/
def join (high low : Nat) : Char := Char.ofNat (0x10000 + (high - 0xD800) * 0x400 + (low - 0xDC00))

end Surrogate

inductive Point
  | char (c : Char)
  /-- A surrogate, counted from the first. -/
  | half (n : Fin 0x800)
  deriving DecidableEq, Repr

namespace Point

def ofNat (n : Nat) : Point :=
  if Surrogate.isHigh n || Surrogate.isLow n then .half (Fin.ofNat 0x800 (n - 0xD800)) else .char (Char.ofNat n)

def char? : Point → Option Char
  | .char c => some c
  | .half _ => none

/-- How a point is shown between quotes. -/
def quoted (mark : Char) : Point → Text
  | .char c => Text.quotedChar mark c
  | .half n => '\\' :: 'u' :: Text.hex 4 (0xD800 + n)

end Point

abbrev Wide := List Point

namespace Wide

def ofText (t : Text) : Wide := t.map .char

def quoteMark (w : Wide) : Char := Text.quoteMark (w.filterMap Point.char?)

def quoted (w : Wide) : Text := w.quoteMark :: w.flatMap (Point.quoted w.quoteMark) ++ [w.quoteMark]

instance : Text.Quotable Wide := ⟨quoted⟩

/-! ## Decoding -/

inductive Fault
  | utf8 (f : Utf8.Fault)
  | truncated
  | outOfRange
  deriving DecidableEq, Repr

def Fault.message : Fault → String
  | .utf8 f => f.message
  | .truncated => "truncated data"
  | .outOfRange => "code point not in range(0x110000)"

/-- The first bytes that make no point, and how many stand before them. -/
structure Damage where
  offset : Nat
  bytes : Bytes
  fault : Fault
  deriving DecidableEq, Repr

/-- The surrogate that three bytes spell. -/
def surrogate? (a b c : UInt8) : Option Point :=
  if a = 0xED && 0xA0 ≤ b && b ≤ 0xBF && 0x80 ≤ c && c ≤ 0xBF then
    some (.ofNat (0xD800 + (b.toNat - 0xA0) * 0x40 + (c.toNat - 0x80)))
  else none

/-- The points of UTF-8, of which `offset` bytes have been read.  The bytes of a surrogate are damaged pieces, each by
itself. -/
def ofPieces (offset : Nat) : List Utf8.Piece → Except Damage Wide
  | [] => .ok []
  | .scalar c size :: ps => (ofPieces (offset + size) ps).map (.char c :: ·)
  | .damaged [a] f :: .damaged [b] _ :: .damaged [c] _ :: ps =>
    match surrogate? a b c with
    | some p => (ofPieces (offset + 3) ps).map (p :: ·)
    | none => .error ⟨offset, [a], .utf8 f⟩
  | .damaged bs f :: _ => .error ⟨offset, bs, .utf8 f⟩

def decode8 (bs : Bytes) : Except Damage Wide := ofPieces 0 (Utf8.pieces bs)

inductive Order
  | little
  | big
  deriving DecidableEq, Repr

/-- The number that the bytes of a unit stand for. -/
def number (o : Order) (bs : Bytes) : Nat :=
  let bs := match o with
    | .big => bs
    | .little => bs.reverse
  bs.foldl (fun (n : Nat) (b : UInt8) => n * 256 + b.toNat) 0

/-- Units of four bytes, each of them a point; `offset` bytes have been read. -/
def decode32 (o : Order) (offset : Nat) : Bytes → Except Damage Wide
  | [] => .ok []
  | a :: b :: c :: d :: bs =>
    let n := number o [a, b, c, d]
    if 0x10FFFF < n then .error ⟨offset, [a, b, c, d], .outOfRange⟩
    else (decode32 o (offset + 4) bs).map (Point.ofNat n :: ·)
  | bs => .error ⟨offset, bs, .truncated⟩

/-- Units of two bytes; `offset` bytes have been read. -/
def units (o : Order) (offset : Nat) : Bytes → Except Damage (List Nat)
  | [] => .ok []
  | a :: b :: bs => (units o (offset + 2) bs).map (number o [a, b] :: ·)
  | [b] => .error ⟨offset, [b], .truncated⟩

/-- A high unit is joined with a low one right behind it, and every other unit is a point. -/
def ofUnits : List Nat → Wide
  | [] => []
  | [n] => [.ofNat n]
  | m :: n :: ns =>
    if Surrogate.isHigh m && Surrogate.isLow n then .char (Surrogate.join m n) :: ofUnits ns
    else .ofNat m :: ofUnits (n :: ns)

def decode16 (o : Order) (offset : Nat) (bs : Bytes) : Except Damage Wide := (units o offset bs).map ofUnits

end Wide
end Licensing
