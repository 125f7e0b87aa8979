import Licensing.Emoji.Names
import Licensing.Text.Integer
import Licensing.Text.LetterCase
/-!
# Emoji by name

In a text, the name of an emoji between two colons stands for the emoji.  The name may say at its end whether the sign
is to be shown as text or as an emoji.
-/
namespace Licensing.Emoji

/-- Two words at a time. -/
def pairs : List Text → List (Text × Text)
  | name :: sign :: ws => (name, sign) :: pairs ws
  | _ => []

def table : List (Text × Text) := pairs (names.flatMap fun l => Text.splitAt ' ' l.toList)

/-- Capitals in a name do not count. -/
def ofName? (name : Text) : Option Text := table.lookup name.lower

/-- What a name may end in, and the selector that it puts behind the sign. -/
def endings : List (Text × Char) := [("-emoji".toList, '\uFE0F'), ("-text".toList, '\uFE0E')]

/-- A name without its ending, and the selector of the ending. -/
def selected (name : Text) : Text × Text :=
  match endings.findSome? fun e => (Text.before? e.1 name).map (·, [e.2]) with
  | some s => s
  | none => (name, [])

/-- What stands for a text between two colons. -/
def shown (name : Text) : Text :=
  match ofName? (selected name).1 with
  | some sign => sign ++ (selected name).2
  | none => ':' :: name ++ [':']

/-- The pieces behind a colon, where a colon stands between any two.  Only a piece without blanks is a name, and its
second colon is no first one. -/
def replacedBehind : List Text → Text
  | [] => []
  | [p] => ':' :: p
  | p :: q :: ps =>
    if p.any Text.isBlank then ':' :: p ++ replacedBehind (q :: ps) else shown p ++ q ++ replacedBehind ps

/-- The text with emoji for their names. -/
def replaced (t : Text) : Text :=
  match Text.splitAt ':' t with
  | [] => []
  | p :: ps => p ++ replacedBehind ps

end Licensing.Emoji
