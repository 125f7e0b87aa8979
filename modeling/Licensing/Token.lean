import Licensing.Text
/-!
# Tokens

A cursor is a place in a source text.  The next token is the first one at or after the cursor: spaces are skipped, a
parenthesis stands alone, and every other token runs up to the next space, parenthesis or end.
-/
namespace Licensing

structure Token where
  text : Text
  start : Nat
  deriving DecidableEq, Repr

def Token.stop (t : Token) : Nat := t.start + t.text.length

namespace Token

def isParen (c : Char) : Bool := c == '(' || c == ')'

def isBreak (c : Char) : Bool := c == ' ' || isParen c

/-- The first token of a text that begins at an offset of the source. -/
def first? : Nat → Text → Option Token
  | _, [] => none
  | k, c :: t =>
    if c = ' ' then first? (k + 1) t
    else if isParen c then some ⟨[c], k⟩
    else some ⟨c :: t.takeWhile (!isBreak ·), k⟩

/-- Every token of a text that begins at an offset of the source.  A character that is not followed by a break joins
the token that begins behind it. -/
def all : Nat → Text → List Token
  | _, [] => []
  | k, c :: t =>
    let later := all (k + 1) t
    if c = ' ' then later
    else if isParen c || t.head?.all isBreak then ⟨[c], k⟩ :: later
    else match later with
      | [] => [⟨[c], k⟩]
      | w :: ws => ⟨c :: w.text, k⟩ :: ws

end Token

/-- The offset may lie at or past the end of the source. -/
structure Cursor where
  source : Text
  offset : Nat
  deriving DecidableEq, Repr

namespace Cursor

def ofText (source : Text) : Cursor := ⟨source, 0⟩

def peek? (c : Cursor) : Option Token := Token.first? c.offset (c.source.drop c.offset)

/-- The next token and the place behind it. -/
def next? (c : Cursor) : Option (Token × Cursor) := c.peek?.map fun t => (t, { c with offset := t.stop })

def atEnd (c : Cursor) : Bool := c.peek?.isNone

def tokens (c : Cursor) : List Token := Token.all c.offset (c.source.drop c.offset)

end Cursor
end Licensing
