import Licensing.Text.Wide
/-!
# The encoding of JSON

JSON arrives as bytes.  Its encoding shows in a mark in front, or in where the zeros stand among the first four bytes,
since JSON begins with two ASCII characters.  Surrogates that stand alone are kept.
-/
namespace Licensing.Json

inductive Encoding
  | utf8
  | utf16 (o : Wide.Order)
  | utf32 (o : Wide.Order)
  deriving DecidableEq, Repr

def Encoding.name : Encoding → String
  | .utf8 => "utf-8"
  | .utf16 .little => "utf-16-le"
  | .utf16 .big => "utf-16-be"
  | .utf32 .little => "utf-32-le"
  | .utf32 .big => "utf-32-be"

/-- The encoding, and the length of the mark. -/
def detect (bs : Bytes) : Encoding × Nat :=
  match bs with
  | 0x00 :: 0x00 :: 0xFE :: 0xFF :: _ => (.utf32 .big, 4)
  | 0xFF :: 0xFE :: 0x00 :: 0x00 :: _ => (.utf32 .little, 4)
  | 0xFE :: 0xFF :: _ => (.utf16 .big, 2)
  | 0xFF :: 0xFE :: _ => (.utf16 .little, 2)
  | 0xEF :: 0xBB :: 0xBF :: _ => (.utf8, 3)
  | a :: b :: c :: d :: _ =>
    if a = 0 then (if b = 0 then .utf32 .big else .utf16 .big, 0)
    else if b = 0 then (if c = 0 && d = 0 then .utf32 .little else .utf16 .little, 0)
    else (.utf8, 0)
  | [a, b] => (if a = 0 then .utf16 .big else if b = 0 then .utf16 .little else .utf8, 0)
  | _ => (.utf8, 0)

/-- What is damaged in an encoding. -/
structure Damage where
  encoding : Encoding
  damage : Wide.Damage
  deriving DecidableEq, Repr

def Damage.message (d : Damage) : Text :=
  Utf8.undecodable d.encoding.name.toList d.damage.bytes d.damage.offset d.damage.fault.message.toList

/-- The points of what stands behind a mark.  Offsets count the mark, but in UTF-8. -/
def Encoding.decode (mark : Nat) (bs : Bytes) : Encoding → Except Wide.Damage Wide
  | .utf8 => Wide.decode8 bs
  | .utf16 o => Wide.decode16 o mark bs
  | .utf32 o => Wide.decode32 o mark bs

def decode (bs : Bytes) : Except Damage Wide :=
  let p := detect bs
  (p.1.decode p.2 (bs.drop p.2)).mapError fun d => ⟨p.1, d⟩

end Licensing.Json
