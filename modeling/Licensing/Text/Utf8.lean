import Licensing.Text
/-!
# UTF-8

A decoder that reads one byte at a time and never stops: each maximal part of the input that cannot belong to a
character is one damaged piece.  A strict reading refuses the first damaged piece and a lenient one puts U+FFFD in
its place, so both agree on where the damage is.
-/
namespace Licensing

abbrev Bytes := List UInt8

namespace Utf8

/-- Why a piece is damaged. -/
inductive Fault
  | badStart
  | badContinuation
  | truncated
  deriving DecidableEq, Repr

inductive Piece
  | scalar (c : Char) (size : Nat)
  | damaged (bytes : Bytes) (fault : Fault)
  deriving DecidableEq, Repr

/-- A character of which some bytes are read, and at least one is missing: the bytes so far, the value of their
payload, how many more must come after the next one, and the bounds of the next one. -/
structure Pending where
  read : Bytes
  value : Nat
  more : Nat
  lo : Nat
  hi : Nat
  deriving DecidableEq, Repr

inductive State
  | between
  | inside (p : Pending)
  deriving DecidableEq, Repr

/-- The second byte has narrower bounds after E0, ED, F0 and F4: this shuts out overlong forms, surrogates and what
lies above U+10FFFF. -/
def start (b : UInt8) : List Piece × State :=
  let n := b.toNat
  if n < 0x80 then ([.scalar (Char.ofNat n) 1], .between)
  else if n < 0xC2 then ([.damaged [b] .badStart], .between)
  else if n < 0xE0 then ([], .inside ⟨[b], n - 0xC0, 0, 0x80, 0xBF⟩)
  else if n < 0xF0 then
    ([], .inside ⟨[b], n - 0xE0, 1, if n = 0xE0 then 0xA0 else 0x80, if n = 0xED then 0x9F else 0xBF⟩)
  else if n < 0xF5 then
    ([], .inside ⟨[b], n - 0xF0, 2, if n = 0xF0 then 0x90 else 0x80, if n = 0xF4 then 0x8F else 0xBF⟩)
  else ([.damaged [b] .badStart], .between)

def step : State → UInt8 → List Piece × State
  | .between, b => start b
  | .inside p, b =>
    if p.lo ≤ b.toNat && b.toNat ≤ p.hi then
      let value := p.value * 64 + (b.toNat - 0x80)
      match p.more with
      | 0 => ([.scalar (Char.ofNat value) (p.read.length + 1)], .between)
      | k + 1 => ([], .inside ⟨p.read ++ [b], value, k, 0x80, 0xBF⟩)
    else (.damaged p.read .badContinuation :: (start b).1, (start b).2)

def finish : State → List Piece
  | .between => []
  | .inside p => [.damaged p.read .truncated]

def piecesFrom (s : State) : Bytes → List Piece
  | [] => finish s
  | b :: bs => (step s b).1 ++ piecesFrom (step s b).2 bs

def pieces (bs : Bytes) : List Piece := piecesFrom .between bs

def replacement : Char := Char.ofNat 0xFFFD

def Piece.shown : Piece → Char
  | .scalar c _ => c
  | .damaged _ _ => replacement

/-- Every damaged piece becomes one U+FFFD. -/
def decodeLossy (bs : Bytes) : Text := (pieces bs).map Piece.shown

/-- The first damaged piece: how many characters and how many bytes stand before it. -/
structure Damage where
  chars : Nat
  offset : Nat
  bytes : Bytes
  fault : Fault
  deriving DecidableEq, Repr

def firstDamage : Nat → Nat → List Piece → Option Damage
  | _, _, [] => none
  | k, n, .scalar _ size :: ps => firstDamage (k + 1) (n + size) ps
  | k, n, .damaged bs f :: _ => some ⟨k, n, bs, f⟩

def decode (bs : Bytes) : Except Damage Text :=
  match firstDamage 0 0 (pieces bs) with
  | some d => .error d
  | none => .ok (decodeLossy bs)

def Fault.message : Fault → String
  | .badStart => "invalid start byte"
  | .badContinuation => "invalid continuation byte"
  | .truncated => "unexpected end of data"

/-- The message for bytes that an encoding has no characters for. -/
def undecodable (encoding : Text) (bytes : Bytes) (offset : Nat) (why : Text) : Text :=
  '\'' :: encoding ++ "' codec can't decode ".toList ++
    (match bytes with
      | [b] => "byte 0x".toList ++ Text.hex 2 b.toNat ++ " in position ".toList ++ Text.ofNat offset
      | bs => "bytes in position ".toList ++ Text.ofNat offset ++ ['-'] ++ Text.ofNat (offset + bs.length - 1)) ++
    ": ".toList ++ why

def Damage.message (d : Damage) : Text := undecodable "utf-8".toList d.bytes d.offset d.fault.message.toList

def encode (t : Text) : Bytes := t.flatMap String.utf8EncodeChar

end Utf8
end Licensing
