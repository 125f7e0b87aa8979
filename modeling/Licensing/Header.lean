import Licensing.Text
import Licensing.Text.Integer
import Licensing.Text.Utf8
import Licensing.Text.Word
/-!
# File headers

The first lines of a file, the license tag in them and the copyright statements.
-/
namespace Licensing.Header

/-- The first lines of a file; bytes that are no text show as replacement characters. -/
def window (n : Nat) (content : Bytes) : List Text := (Text.lines (Utf8.decodeLossy content)).take n

/-- Nothing but white space and the ends of comments. -/
def isTrailer : Text → Bool
  | [] => true
  | '*' :: '/' :: t => isTrailer t
  | '-' :: '-' :: '>' :: t => isTrailer t
  | c :: t => Text.isBlank c && isTrailer t

def dropTrailer : Text → Text
  | [] => []
  | c :: t => if isTrailer (c :: t) then [] else c :: dropTrailer t

/-- Takes away the white space in front, and behind it also the ends of comments.  No character belongs to two of
these, so it does not matter in which order they go. -/
def clean (t : Text) : Text := dropTrailer (Text.trimStart t)

def tagWord : Text := "SPDX-License-Identifier:".toList

/-- What stands behind the first tag of a line. -/
def lineTag? (line : Text) : Option Text := (Text.cut? tagWord line).map fun p => clean p.2

/-- The first tag that is not empty. -/
def tag? (ls : List Text) : Option Text := (ls.filterMap lineTag?).find? fun v => !v.isEmpty

def fileCopyrightWord : Text := "SPDX-FileCopyrightText:".toList

def copyrightWord : Text := "Copyright".toList

def copyrightSign : Text := [Char.ofNat 0xA9]

/-- Whether a statement begins here.  The plain word must end here, too. -/
def beginsStatement (t : Text) : Bool :=
  Text.startsWith t fileCopyrightWord || Text.startsWith t copyrightSign ||
    (match Text.after? copyrightWord t with
      | none => false
      | some r => !r.head?.any Text.isWord)

/-- A line from the first place on at which a statement begins. -/
def statement? : Text → Option Text
  | [] => none
  | c :: t => if beginsStatement (c :: t) then some (c :: t) else statement? t

/-- The value of a run of digits that is a year. -/
def runYear? (run : Text) : Option Nat := if run.length = 4 then some (Text.digitsValue run) else none

/-- The first run of exactly four digits, where `run` holds the digits just before. -/
def yearFrom (run : Text) : Text → Option Nat
  | [] => runYear? run
  | c :: t =>
    if Text.isDigit c then yearFrom (run ++ [c]) t
    else match runYear? run with
      | some y => some y
      | none => yearFrom [] t

def year? (t : Text) : Option Nat := yearFrom [] t

/-- A copyright statement and the year it names. -/
structure Statement where
  text : Text
  year : Option Nat
  deriving DecidableEq, Repr

def lineStatement? (line : Text) : Option Statement :=
  (statement? line).map fun t => ⟨clean t, year? (clean t)⟩

def statements (ls : List Text) : List Statement := ls.filterMap lineStatement?

end Licensing.Header
