import Licensing.Json.Reader
import Licensing.Text.Integer
import Licensing.Toml.Moment
import Licensing.Toml.Tables
/-!
# Reading TOML

A document of TOML 1.1 is a list of lines: keys with values, and headers that say in which table the following keys
belong.  Ends of lines are single line feeds.  A part that cannot be read makes the whole document invalid; there is no
telling which.
-/
namespace Licensing.Toml

def isSpace (c : Char) : Bool := c == ' ' || c == '\t'

def skip (t : Text) : Text := t.dropWhile isSpace

/-- Control characters other than the tab stand nowhere in a document. -/
def isControl (c : Char) : Bool := (c.toNat < 0x20 && c != '\t') || c.toNat = 0x7F

/-- Spaces, line ends and comments. -/
def skipLines : Bool → Text → Option Text
  | _, [] => some []
  | inComment, c :: t =>
    if c = '\n' then skipLines false t
    else if inComment then (if isControl c then none else skipLines true t)
    else if isSpace c then skipLines false t
    else if c = '#' then skipLines true t
    else some (c :: t)

/-- The rest of a line, which may hold a comment. -/
def lineEnd (t : Text) : Option Text :=
  match skip t with
  | [] => some []
  | '\n' :: t => some t
  | '#' :: t => if (t.takeWhile (· != '\n')).any isControl then none else some ((t.dropWhile (· != '\n')).drop 1)
  | _ => none

/-! ## Strings -/

def scalar? (n : Nat) : Option Char :=
  if n < 0xD800 || (0xE000 ≤ n && n < 0x110000) then some (Char.ofNat n) else none

/-- The number that hexadecimal digits write. -/
def hexNumber? (ds : Text) : Option Nat :=
  ds.foldl (fun n c => n.bind fun n => (Json.hexValue? c).map (n * 16 + ·)) (some 0)

def hexChar? (ds : Text) : Option Char := (hexNumber? ds).bind scalar?

def letterEscape? : Char → Option Char
  | 'b' => some (Char.ofNat 8)
  | 'e' => some (Char.ofNat 27)
  | 't' => some '\t'
  | 'n' => some '\n'
  | 'f' => some (Char.ofNat 12)
  | 'r' => some '\r'
  | '"' => some '"'
  | '\\' => some '\\'
  | _ => none

def consFirst (c : Char) (r : Option (Text × Text)) : Option (Text × Text) := r.map fun p => (c :: p.1, p.2)

/-- A string on one line, behind its opening quote. -/
def basicRest : Text → Option (Text × Text)
  | [] => none
  | '"' :: t => some ([], t)
  | '\\' :: 'x' :: a :: b :: t => (hexChar? [a, b]).bind fun x => consFirst x (basicRest t)
  | '\\' :: 'u' :: a :: b :: c :: d :: t => (hexChar? [a, b, c, d]).bind fun x => consFirst x (basicRest t)
  | '\\' :: 'U' :: a :: b :: c :: d :: e :: f :: g :: h :: t =>
    (hexChar? [a, b, c, d, e, f, g, h]).bind fun x => consFirst x (basicRest t)
  | '\\' :: e :: t => (letterEscape? e).bind fun x => consFirst x (basicRest t)
  | c :: t => if c = '\\' || c = '\n' || isControl c then none else consFirst c (basicRest t)

def literalRest : Text → Option (Text × Text)
  | [] => none
  | '\'' :: t => some ([], t)
  | c :: t => if c = '\n' || isControl c then none else consFirst c (literalRest t)

/-- Three quotes close a string of several lines; up to two more in front of them belong to it. -/
def closing? (q : Char) (t : Text) : Option (Text × Text) :=
  let n := (t.takeWhile (· == q)).length
  if 3 ≤ n then some (List.replicate (min n 5 - 3) q, t.drop (min n 5)) else none

/-- A string of several lines, behind its opening quotes; `trimming` is on after a backslash at the end of a line. -/
def longBasicRest (trimming : Bool) : Text → Option (Text × Text)
  | [] => none
  | c :: t =>
    if trimming && (isSpace c || c = '\n') then longBasicRest true t
    else if c = '"' then
      match closing? '"' (c :: t) with
      | some r => some r
      | none => consFirst c (longBasicRest false t)
    else if c = '\\' then
      match t with
      | 'x' :: a :: b :: t => (hexChar? [a, b]).bind fun x => consFirst x (longBasicRest false t)
      | 'u' :: a :: b :: c :: d :: t => (hexChar? [a, b, c, d]).bind fun x => consFirst x (longBasicRest false t)
      | 'U' :: a :: b :: c :: d :: e :: f :: g :: h :: t =>
        (hexChar? [a, b, c, d, e, f, g, h]).bind fun x => consFirst x (longBasicRest false t)
      | e :: t =>
        match letterEscape? e with
        | some x => consFirst x (longBasicRest false t)
        | none =>
          if (e :: t).dropWhile isSpace |>.head?.all (· == '\n') then longBasicRest true (e :: t) else none
      | [] => none
    else if isControl c && c != '\n' then none
    else consFirst c (longBasicRest false t)

def longLiteralRest : Text → Option (Text × Text)
  | [] => none
  | c :: t =>
    if c = '\'' then
      match closing? '\'' (c :: t) with
      | some r => some r
      | none => consFirst c (longLiteralRest t)
    else if isControl c && c != '\n' then none
    else consFirst c (longLiteralRest t)

/-- A line end right behind the opening quotes does not belong to the string. -/
def dropFirstEnd : Text → Text
  | '\n' :: t => t
  | t => t

def string? : Text → Option (Text × Text)
  | '"' :: '"' :: '"' :: t => longBasicRest false (dropFirstEnd t)
  | '"' :: t => basicRest t
  | '\'' :: '\'' :: '\'' :: t => longLiteralRest (dropFirstEnd t)
  | '\'' :: t => literalRest t
  | _ => none

/-! ## Keys -/

def isBareKey (c : Char) : Bool := c.isAlphanum || c == '_' || c == '-'

def simpleKey? (t : Text) : Option (Text × Text) :=
  match t with
  | '"' :: t => basicRest t
  | '\'' :: t => literalRest t
  | t => if (t.takeWhile isBareKey).isEmpty then none else some (t.takeWhile isBareKey, t.dropWhile isBareKey)

/-- A key and the keys behind its dots. -/
def key? : Nat → Text → Option (List Text × Text)
  | 0, _ => none
  | fuel + 1, t => do
    let (k, t) ← simpleKey? (skip t)
    match skip t with
    | '.' :: t =>
      let (ks, t) ← key? fuel t
      return (k :: ks, t)
    | t => return ([k], t)

/-! ## Numbers -/

/-- What a bare value runs up to. -/
def endsWord (c : Char) : Bool := " \t\n#,]\x7d".toList.contains c

def decimal? (t : Text) : Option Text := Text.digitGroups? Json.isDigit t

def inBase (base : Nat) (ds : Text) : Nat := ds.foldl (fun n c => n * base + (Json.hexValue? c).getD 0) 0

def based? (base : Nat) (t : Text) : Option Nat :=
  (Text.digitGroups? (fun c => (Json.hexValue? c).any (· < base)) t).map (inBase base)

/-- A whole part: a zero does not lead. -/
def wholePart? (t : Text) : Option Text :=
  (decimal? t).bind fun ds => if ds.head? = some '0' && ds ≠ ['0'] then none else some ds

def exponent? : Text → Option Int
  | '-' :: t => (decimal? t).map fun ds => -(inBase 10 ds : Int)
  | '+' :: t => (decimal? t).map fun ds => (inBase 10 ds : Int)
  | t => (decimal? t).map fun ds => (inBase 10 ds : Int)

/-- The digits before and behind the point, which needs digits on both sides. -/
def mantissa? (t : Text) : Option (Text × Text) :=
  match Text.cut? ['.'] t with
  | none => (wholePart? t).map fun w => (w, [])
  | some (w, f) => (wholePart? w).bind fun w => (decimal? f).map fun f => (w, f)

/-- A number with a fraction, an exponent or both. -/
def float? (negative : Bool) (t : Text) : Option Binary64 := do
  let front := t.takeWhile fun c => c != 'e' && c != 'E'
  let power ← match t.drop front.length with
    | [] => some 0
    | _ :: e => exponent? e
  let (whole, fraction) ← mantissa? front
  return .ofDecimal negative (inBase 10 (whole ++ fraction)) (power - fraction.length)

/-- A whole number with more digits than an integer may have is read as one with a fraction is. -/
def unsigned? (negative : Bool) (t : Text) : Option Value :=
  if t = "inf".toList then some (.float (.infinite negative))
  else if t = "nan".toList then some (.float .nan)
  else match wholePart? t with
    | some ds =>
      if Text.maxDigits < ds.length then some (.float (.ofDecimal negative (inBase 10 ds) 0))
      else some (.int (if negative then -(inBase 10 ds : Int) else inBase 10 ds))
    | none => (float? negative t).map .float

/-- A value that is written as one word. -/
def word? : Text → Option Value
  | '+' :: t => unsigned? false t
  | '-' :: t => unsigned? true t
  | '0' :: 'x' :: t => (based? 16 t).map fun n => .int n
  | '0' :: 'o' :: t => (based? 8 t).map fun n => .int n
  | '0' :: 'b' :: t => (based? 2 t).map fun n => .int n
  | t => if t = "true".toList then some (.bool true) else if t = "false".toList then some (.bool false)
    else unsigned? false t

/-- What a time behind a day and a space runs up to. -/
def endsTime (c : Char) : Bool := endsWord c && c != ' '

/-- A value that is written as one word, or as a day and a time with a space between them. -/
def bare? (t : Text) : Option (Value × Text) :=
  let word := t.takeWhile (!endsWord ·)
  let t := t.dropWhile (!endsWord ·)
  match moment? word with
  | some (.day d) =>
    match Text.trimEnd (t.takeWhile (!endsTime ·)) with
    | [] => some (.moment (.day d), t)
    | _ :: time => (timeOn? d time).map fun m => (.moment m, t.dropWhile (!endsTime ·))
  | some m => some (.moment m, t)
  | none => (word? word).map fun v => (v, t)

/-! ## Values

An opening bracket or brace takes two steps, and every other step takes at least one character, so a fuel above twice
the length of the text never runs out. -/
mutual

def value? : Nat → Text → Option (Value × Text)
  | 0, _ => none
  | fuel + 1, t =>
    match t with
    | '"' :: _ => (string? t).map fun p => (.text p.1, p.2)
    | '\'' :: _ => (string? t).map fun p => (.text p.1, p.2)
    | '[' :: t => (items? fuel t).map fun p => (.list p.1, p.2)
    | '\x7b' :: t => pairs? fuel [] t
    | t => bare? t

/-- The items of an array, behind its opening bracket or a comma. -/
def items? : Nat → Text → Option (List Value × Text)
  | 0, _ => none
  | fuel + 1, t => do
    match ← skipLines false t with
    | ']' :: t => return ([], t)
    | t =>
      let (v, t) ← value? fuel t
      match ← skipLines false t with
      | ']' :: t => return ([v], t)
      | ',' :: t =>
        let (vs, t) ← items? fuel t
        return (v :: vs, t)
      | _ => none

/-- An inline table behind its opening brace or a comma, with the pairs of `done` so far. -/
def pairs? : Nat → Entries → Text → Option (Value × Text)
  | 0, _, _ => none
  | fuel + 1, done, t => do
    match ← skipLines false t with
    | '\x7d' :: t => return (.record (fieldsOf done), t)
    | t =>
      let (k, v, t) ← pair? fuel t
      let done ← done.define v k
      match ← skipLines false t with
      | '\x7d' :: t => return (.record (fieldsOf done), t)
      | ',' :: t => pairs? fuel done t
      | _ => none

/-- A key and its value. -/
def pair? : Nat → Text → Option (List Text × Value × Text)
  | 0, _ => none
  | fuel + 1, t => do
    let (k, t) ← key? (fuel + 1) t
    match t with
    | '=' :: t =>
      let (v, t) ← value? fuel (skip t)
      return (k, v, t)
    | _ => none

end

/-! ## Documents -/

/-- A header, behind its opening brackets. -/
def header? (close : Text) (t : Text) : Option (List Text × Text) := do
  let (path, t) ← key? (t.length + 1) t
  let t ← Text.after? close t
  let t ← lineEnd t
  return (path, t)

/-- A key and its value, up to the end of the line. -/
def pairLine? (t : Text) : Option (List Text × Value × Text) := do
  let (k, v, t) ← pair? (2 * t.length + 2) t
  let t ← lineEnd t
  return (k, v, t)

/-- The lines of a document, where `place` is the path of the table that the last header opened. -/
def linesFrom : Nat → List Text → Entries → Text → Option Entries
  | 0, _, _, _ => none
  | fuel + 1, place, root, t => do
    match ← skipLines false t with
    | [] => return root
    | '[' :: '[' :: t =>
      let (path, t) ← header? "]]".toList t
      let root ← root.atLast Entries.openNext path
      linesFrom fuel path root t
    | '[' :: t =>
      let (path, t) ← header? "]".toList t
      let root ← root.atLast Entries.openTable path
      linesFrom fuel path root t
    | t =>
      let (k, v, t) ← pairLine? t
      let root ← root.modify (Entries.define v k) place
      linesFrom fuel place root t

def read? (t : Text) : Option Fields := (linesFrom (t.length + 1) [] [] t).map fieldsOf

end Licensing.Toml
