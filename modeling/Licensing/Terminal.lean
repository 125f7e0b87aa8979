import Licensing.Emoji
import Licensing.Text.Columns
/-!
# Messages on a terminal

A message is shown as it is, without being taken for markup, apart from the names of emoji.  In markup a short text in
square brackets is a tag, and a backslash in front of a bracket keeps it from being one.
-/
namespace Licensing.Terminal

def tabWidth : Nat := 8

/-- Characters that ring a bell or move the cursor are left out. -/
def isMute (c : Char) : Bool := [7, 8, 11, 12, 13].contains c.toNat

/-- A closing bracket comes before any other opening one. -/
def closes : Text → Bool
  | [] => false
  | c :: t => c == ']' || (c != '[' && closes t)

/-- Whether the text behind an opening bracket makes a tag. -/
def isTag : Text → Bool
  | [] => false
  | c :: t => (('a' ≤ c && c ≤ 'z') || c == '#' || c == '/' || c == '@') && closes t

/-- A backslash in front of a bracket that begins no tag has done its work and vanishes. -/
def literal : Text → Text
  | '\\' :: '[' :: t => if isTag t then '\\' :: '[' :: literal t else '[' :: literal t
  | c :: t => c :: literal t
  | [] => []

/-- A single backslash at the end is doubled, so that it cannot touch a bracket behind it. -/
def guarded (t : Text) : Text :=
  match t.reverse with
  | ['\\'] => t ++ ['\\']
  | '\\' :: c :: _ => if c = '\\' then t else t ++ ['\\']
  | _ => t

/-- Cuts a text in front of every tag and behind it; `inside` says that the text begins within a tag. -/
def pieces (inside : Bool) : Text → List Text
  | [] => [[]]
  | c :: t =>
    if inside then (if c = ']' then [c] :: pieces false t else consFirst c (pieces true t))
    else if c = '[' && isTag t then [] :: consFirst c (pieces true t)
    else consFirst c (pieces false t)
where
  consFirst (c : Char) : List Text → List Text
    | [] => [[c]]
    | p :: ps => (c :: p) :: ps

/-- The name of an emoji does not reach into a tag or out of it. -/
def symbolic (t : Text) : Text := (pieces false t).flatMap Emoji.replaced

/-- A text in front of a tab, filled up to the next tab stop. -/
def filled (p : Text) : Text :=
  p ++ ' ' :: Text.spaces ((tabWidth - Text.width (p ++ [' ']) % tabWidth) % tabWidth)

/-- The texts between the tabs of a line: every tab ends at a tab stop. -/
def aligned : List Text → Text
  | [] => []
  | [p] => p
  | p :: ps => filled p ++ aligned ps

/-- The lines that show a text. -/
def shown (t : Text) : Text :=
  Text.join ['\n'] ((Text.splitAt '\n' (t.filter (!isMute ·))).map fun l => aligned (Text.splitAt '\t' l)) ++ ['\n']

/-- An error with its message. -/
def error (message : Text) : Text := shown ("error: ".toList ++ symbolic (literal (guarded message)))

end Licensing.Terminal
