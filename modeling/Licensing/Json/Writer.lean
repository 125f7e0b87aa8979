import Licensing.Value
/-!
# Writing JSON

One writer for every layout: what stands after a comma and after a colon, whether items go on lines of their own and
how far these are indented, and whether the text is kept within ASCII.  A moment is written as a text.
-/
namespace Licensing.Json

structure Layout where
  itemGap : Text
  keyGap : Text
  indent : Option Nat
  ascii : Bool
  deriving DecidableEq, Repr

/-- No spaces at all. -/
def Layout.compact : Layout := ⟨[], [], none, false⟩

/-- One item per line, `n` spaces further in at each level. -/
def Layout.indented (n : Nat) : Layout := ⟨[], [' '], some n, false⟩

/-- On one line, with a space after commas and colons, in ASCII. -/
def Layout.line : Layout := ⟨[' '], [' '], none, true⟩

def Layout.ofIndent : Option Nat → Layout
  | none => .compact
  | some n => .indented n

def hexUnit (n : Nat) : Text := '\\' :: 'u' :: Text.hex 4 n

/-- A code point in units of sixteen bits: beyond the first plane as a pair of surrogates. -/
def units (n : Nat) : Text :=
  if n < 0x10000 then hexUnit n
  else hexUnit (0xD800 + (n - 0x10000) / 0x400) ++ hexUnit (0xDC00 + (n - 0x10000) % 0x400)

def escape (ascii : Bool) (c : Char) : Text :=
  if c = '"' then ['\\', '"']
  else if c = '\\' then ['\\', '\\']
  else if c = '\n' then ['\\', 'n']
  else if c = '\r' then ['\\', 'r']
  else if c = '\t' then ['\\', 't']
  else if c.toNat = 8 then ['\\', 'b']
  else if c.toNat = 12 then ['\\', 'f']
  else if c.toNat < 0x20 || (ascii && 0x7E < c.toNat) then units c.toNat
  else [c]

def quote (ascii : Bool) (t : Text) : Text := '"' :: t.flatMap (escape ascii) ++ ['"']

def numeral : Binary64 → Text
  | .finite s m e => Binary64.render (.finite s m e)
  | .infinite s => Binary64.sign s ++ "Infinity".toList
  | .nan => "NaN".toList

/-- The start of a new line at a depth, where the layout has lines. -/
def Layout.newline (l : Layout) (depth : Nat) : Text :=
  match l.indent with
  | none => []
  | some n => '\n' :: Text.spaces (n * depth)

/-- Between two items. -/
def Layout.comma (l : Layout) (depth : Nat) : Text := ',' :: l.itemGap ++ l.newline depth

def Layout.key (l : Layout) (k : Text) : Text := quote l.ascii k ++ ':' :: l.keyGap

mutual

def write (l : Layout) (depth : Nat) : Value → Text
  | .null => "null".toList
  | .bool b => if b then "true".toList else "false".toList
  | .int n => Text.ofInt n
  | .float x => numeral x
  | .text t => quote l.ascii t
  | .moment m => quote l.ascii m.shown
  | .list [] => "[]".toList
  | .list (v :: vs) =>
    '[' :: l.newline (depth + 1) ++ write l (depth + 1) v ++ writeItems l (depth + 1) vs ++
      l.newline depth ++ [']']
  | .record [] => "\x7b\x7d".toList
  | .record ((k, v) :: fs) =>
    '\x7b' :: l.newline (depth + 1) ++ l.key k ++ write l (depth + 1) v ++ writeFields l (depth + 1) fs ++
      l.newline depth ++ ['\x7d']

/-- The items after the first. -/
def writeItems (l : Layout) (depth : Nat) : List Value → Text
  | [] => []
  | v :: vs => l.comma depth ++ write l depth v ++ writeItems l depth vs

/-- The fields after the first. -/
def writeFields (l : Layout) (depth : Nat) : List (Text × Value) → Text
  | [] => []
  | (k, v) :: fs => l.comma depth ++ l.key k ++ write l depth v ++ writeFields l depth fs

end

def render (l : Layout) (v : Value) : Text := write l 0 v

end Licensing.Json
