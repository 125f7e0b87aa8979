import Licensing.Text.Wide
import Licensing.Value
/-!
# Reading JSON

A reader takes a text and hands back a value with the text behind it.  A fault is reported with the text from the
place of the fault on, so its offset is known once the length of the whole text is.  Of two fields with one key the
later gives the value.

There are two readers.  One reads texts, which have no place for a surrogate that stands alone, and goes as deep as it
must.  The other keeps such surrogates, but it limits the digits of an integer and the brackets that are open at once.
-/
namespace Licensing.Json

inductive Fault
  | expectedValue
  | expectedKey
  | expectedColon
  | expectedComma
  | unterminatedString
  | controlCharacter
  | badEscape
  | badUnit
  | loneSurrogate
  | extraData
  /-- An integer of more digits than are allowed. -/
  | tooManyDigits (limit digits : Nat)
  /-- More open brackets than are allowed. -/
  | tooDeep
  deriving DecidableEq, Repr

def Fault.message : Fault → Text
  | .expectedValue => "Expecting value".toList
  | .expectedKey => "Expecting property name enclosed in double quotes".toList
  | .expectedColon => "Expecting ':' delimiter".toList
  | .expectedComma => "Expecting ',' delimiter".toList
  | .unterminatedString => "Unterminated string starting at".toList
  | .controlCharacter => "Invalid control character at".toList
  | .badEscape => "Invalid \\escape".toList
  | .badUnit => "Invalid \\uXXXX escape".toList
  | .loneSurrogate => "Unpaired surrogate at".toList
  | .extraData => "Extra data".toList
  | .tooManyDigits limit digits =>
    "Exceeds the limit (".toList ++ Text.ofNat limit ++ " digits) for integer string conversion: value has ".toList ++
      Text.ofNat digits ++ " digits; use sys.set_int_max_str_digits() to increase the limit".toList
  | .tooDeep => "maximum recursion depth exceeded".toList

/-- Whether a message says where the fault is. -/
def Fault.isPlaced : Fault → Bool
  | .tooManyDigits _ _ => false
  | .tooDeep => false
  | _ => true

/-- A fault, and the text from its place on. -/
abbrev Failure (κ : Type) := Fault × List κ

/-! ## Characters -/

def isSpace (c : Char) : Bool := c == ' ' || c == '\t' || c == '\n' || c == '\r'

def isDigit (c : Char) : Bool := '0' ≤ c && c ≤ '9'

def digitsValue (ds : Text) : Nat := ds.foldl (fun n c => n * 10 + (c.toNat - 48)) 0

def hexValue? (c : Char) : Option Nat :=
  if isDigit c then some (c.toNat - 48)
  else if 'a' ≤ c && c ≤ 'f' then some (c.toNat - 87)
  else if 'A' ≤ c && c ≤ 'F' then some (c.toNat - 55)
  else none

/-! ## Numbers and words -/

/-- The digits of a fraction; without a digit after the point there is none. -/
def fraction : Text → Option (Text × Text)
  | '.' :: t => if t.head?.any isDigit then some (t.takeWhile isDigit, t.dropWhile isDigit) else none
  | _ => none

/-- The sign of an exponent. -/
def exponentSign : Text → Bool × Text
  | '-' :: t => (true, t)
  | '+' :: t => (false, t)
  | t => (false, t)

def exponent (t : Text) : Option (Int × Text) :=
  match t with
  | c :: t =>
    if c = 'e' || c = 'E' then
      let (negative, t) := exponentSign t
      if t.head?.any isDigit then
        let n : Int := digitsValue (t.takeWhile isDigit)
        some (if negative then -n else n, t.dropWhile isDigit)
      else none
    else none
  | [] => none

/-- The whole part of a number: a zero stands alone. -/
def wholePart : Text → Option (Text × Text)
  | [] => none
  | '0' :: t => some (['0'], t)
  | c :: t => if isDigit c then some (c :: t.takeWhile isDigit, t.dropWhile isDigit) else none

/-- An integer of some digits. -/
def integer (limit : Option Nat) (negative : Bool) (ds t : Text) : Except (Failure Char) (Value × Text) :=
  let n : Int := digitsValue ds
  match limit with
  | some l =>
    if l < ds.length then .error (.tooManyDigits l ds.length, t) else .ok (.int (if negative then -n else n), t)
  | none => .ok (.int (if negative then -n else n), t)

/-- A number without its sign, which stands at `place` with it.  It is an integer unless it has a fraction or an
exponent. -/
def unsigned (limit : Option Nat) (place : Text) (negative : Bool) (t : Text) : Except (Failure Char) (Value × Text) :=
  match wholePart t with
  | none => .error (.expectedValue, place)
  | some (ds, t) =>
    match fraction t, exponent ((fraction t).elim t (·.2)) with
    | none, none => integer limit negative ds t
    | f, x =>
      let fs := f.elim [] (·.1)
      let t := f.elim t (·.2)
      .ok (.float (.ofDecimal negative (digitsValue (ds ++ fs)) (x.elim 0 (·.1) - fs.length)), x.elim t (·.2))

def number (limit : Option Nat) (t : Text) : Except (Failure Char) (Value × Text) :=
  match t with
  | '-' :: r => unsigned limit t true r
  | _ => unsigned limit t false t

/-- The values that are written as words. -/
def words : List (Text × Value) :=
  [("null".toList, .null), ("true".toList, .bool true), ("false".toList, .bool false),
    ("NaN".toList, .float .nan), ("Infinity".toList, .float (.infinite false)),
    ("-Infinity".toList, .float (.infinite true))]

def word? (t : Text) : Option (Value × Text) :=
  words.findSome? fun p => (Text.after? p.1 t).map fun r => (p.2, r)

/-- One value, a number or a word. -/
def scalar (limit : Option Nat) (t : Text) : Except (Failure Char) (Value × Text) :=
  match word? t with
  | some a => .ok a
  | none => number limit t

/-! ## Dialects -/

/-- What readers differ in; `κ` is what their texts are made of. -/
structure Dialect (κ : Type) where
  char? : κ → Option Char
  ofChar : Char → κ
  /-- A surrogate that stands alone, if there is a place for it. -/
  half? : Nat → Option κ
  scalar : List κ → Except (Failure κ) (Value (List κ) × List κ)
  /-- Whether a bracket may be opened inside of so many others. -/
  mayOpen : Nat → Bool

namespace Dialect

/-- Every surrogate is one half of a character, and nothing is limited. -/
def strict : Dialect Char where
  char? := some
  ofChar := id
  half? _ := none
  scalar := Json.scalar none
  mayOpen _ := true

/-- Whether a character may be part of a number or a word. -/
def isPlain (c : Char) : Bool := c.isAlphanum || c == '+' || c == '-' || c == '.'

/-- The characters in front of which a number or a word is made. -/
def run : Wide → Text
  | .char c :: w => if isPlain c then c :: run w else []
  | _ => []

/-- A value that is read from the characters in front. -/
def wideScalar (w : Wide) : Except (Failure Point) (Value Wide × Wide) :=
  let behind (r : Text) : Wide := w.drop ((run w).length - r.length)
  match Json.scalar (some Text.maxDigits) (run w) with
  | .ok (v, r) => .ok (v.map Wide.ofText, behind r)
  | .error (f, r) => .error (f, behind r)

/-- Surrogates may stand alone, and so many brackets may be open at once. -/
def lenient (brackets : Nat) : Dialect Point where
  char? := Point.char?
  ofChar := .char
  half? n := some (.ofNat n)
  scalar := wideScalar
  mayOpen depth := depth < brackets

variable {κ : Type}

/-- The first character, if the text begins with one, and what stands behind it. -/
def next? (d : Dialect κ) : List κ → Option (Char × List κ)
  | [] => none
  | k :: t => (d.char? k).map (·, t)

def skip (d : Dialect κ) (t : List κ) : List κ := t.dropWhile fun k => (d.char? k).any isSpace

end Dialect

variable {κ : Type}

/-! ## Strings -/

/-- Four hexadecimal digits that do not end the text. -/
def unit? (d : Dialect κ) : List κ → Option (Nat × List κ)
  | a :: b :: c :: e :: k :: t => do
    let a ← (d.char? a).bind hexValue?
    let b ← (d.char? b).bind hexValue?
    let c ← (d.char? c).bind hexValue?
    let e ← (d.char? e).bind hexValue?
    return (((a * 16 + b) * 16 + c) * 16 + e, k :: t)
  | _ => none

/-- A surrogate that stands alone, in the escape whose `u` begins `place`. -/
def alone (d : Dialect κ) (place : List κ) (n : Nat) (t : List κ) : Except (Failure κ) (κ × List κ) :=
  match d.half? n with
  | some k => .ok (k, t)
  | none => .error (.loneSurrogate, place)

/-- What follows a backslash and the `u` at which `place` begins.  Digits that end the text are as bad as missing ones,
since the string is not closed. -/
def unitEscape (d : Dialect κ) (place t : List κ) : Except (Failure κ) (κ × List κ) :=
  match unit? d t with
  | none => .error (.badUnit, place)
  | some (n, t) =>
    if Surrogate.isHigh n then
      match t with
      | a :: b :: r =>
        if d.char? a = some '\\' && d.char? b = some 'u' then
          match unit? d r with
          | none => .error (.badUnit, b :: r)
          | some (m, r) =>
            if Surrogate.isLow m then .ok (d.ofChar (Surrogate.join n m), r) else alone d place n t
        else alone d place n t
      | t => alone d place n t
    else if Surrogate.isLow n then alone d place n t
    else .ok (d.ofChar (Char.ofNat n), t)

/-- What an escape of one letter stands for. -/
def letterEscape? : Char → Option Char
  | '"' => some '"'
  | '\\' => some '\\'
  | '/' => some '/'
  | 'b' => some (Char.ofNat 8)
  | 'f' => some (Char.ofNat 12)
  | 'n' => some '\n'
  | 'r' => some '\r'
  | 't' => some '\t'
  | _ => none

/-- What stands for one unit of a string behind the backslash at which `place` begins; `whole` is the text from the
opening quote on. -/
def escaped (d : Dialect κ) (whole place : List κ) : List κ → Except (Failure κ) (κ × List κ)
  | [] => .error (.unterminatedString, whole)
  | e :: t =>
    if d.char? e = some 'u' then unitEscape d (e :: t) t
    else match (d.char? e).bind letterEscape? with
      | none => .error (.badEscape, place)
      | some c => .ok (d.ofChar c, t)

/-- One unit of a string, or nothing at the closing quote. -/
def stringStep (d : Dialect κ) (whole : List κ) : List κ → Except (Failure κ) (Option κ × List κ)
  | [] => .error (.unterminatedString, whole)
  | k :: t =>
    match d.char? k with
    | some '"' => .ok (none, t)
    | some '\\' => (escaped d whole (k :: t) t).map fun p => (some p.1, p.2)
    | c => if c.any (·.toNat < 0x20) then .error (.controlCharacter, k :: t) else .ok (some k, t)

/-- The rest of a string.  Every step takes at least one unit, so a fuel of the length of the text is enough. -/
def stringRest (d : Dialect κ) (whole : List κ) : Nat → List κ → Except (Failure κ) (List κ × List κ)
  | 0, _ => .error (.unterminatedString, whole)
  | fuel + 1, t => do
    match ← stringStep d whole t with
    | (none, t) => return ([], t)
    | (some k, t) =>
      let (s, t) ← stringRest d whole fuel t
      return (k :: s, t)

/-- A string, at its opening quote. -/
def string (d : Dialect κ) (fuel : Nat) (t : List κ) : Except (Failure κ) (List κ × List κ) :=
  stringRest d t fuel (t.drop 1)

/-! ## Values

An opening bracket takes two steps of the reader, and every other step takes at least one unit, so a fuel above twice
the length of the text never runs out.  `depth` brackets are open. -/

variable [DecidableEq κ]

mutual

def value (d : Dialect κ) : Nat → Nat → List κ → Except (Failure κ) (Value (List κ) × List κ)
  | 0, _, t => .error (.expectedValue, t)
  | fuel + 1, depth, t =>
    match d.next? t with
    | none => .error (.expectedValue, t)
    | some ('"', _) => (string d fuel t).map fun p => (.text p.1, p.2)
    | some ('[', r) =>
      if d.mayOpen depth then
        match d.next? (d.skip r) with
        | some (']', r) => .ok (.list [], r)
        | _ => (items d fuel (depth + 1) (d.skip r)).map fun p => (.list p.1, p.2)
      else .error (.tooDeep, t)
    | some ('\x7b', r) =>
      if d.mayOpen depth then
        match d.next? (d.skip r) with
        | some ('\x7d', r) => .ok (.record [], r)
        | _ => fields d fuel (depth + 1) [] (d.skip r)
      else .error (.tooDeep, t)
    | some _ => d.scalar t

/-- The items of a list that is not empty, and its closing bracket. -/
def items (d : Dialect κ) : Nat → Nat → List κ → Except (Failure κ) (List (Value (List κ)) × List κ)
  | 0, _, t => .error (.expectedValue, t)
  | fuel + 1, depth, t => do
    let (v, t) ← value d fuel depth t
    match d.next? (d.skip t) with
    | some (']', t) => return ([v], t)
    | some (',', t) => do
      let (vs, t) ← items d fuel depth (d.skip t)
      return (v :: vs, t)
    | _ => .error (.expectedComma, d.skip t)

/-- The fields of a record that is not empty, after those of `done`, and its closing brace. -/
def fields (d : Dialect κ) : Nat → Nat → Fields (List κ) → List κ → Except (Failure κ) (Value (List κ) × List κ)
  | 0, _, _, t => .error (.expectedKey, t)
  | fuel + 1, depth, done, t => do
    match d.next? t with
    | some ('"', _) =>
      let (k, t) ← string d fuel t
      match d.next? (d.skip t) with
      | some (':', t) =>
        let (v, t) ← value d fuel depth (d.skip t)
        match d.next? (d.skip t) with
        | some ('\x7d', t) => return (.record (done.put k v), t)
        | some (',', t) => fields d fuel depth (done.put k v) (d.skip t)
        | _ => .error (.expectedComma, d.skip t)
      | _ => .error (.expectedColon, d.skip t)
    | _ => .error (.expectedKey, t)

end

/-- A whole text: one value between spaces. -/
def readAll (d : Dialect κ) (t : List κ) : Except (Failure κ) (Value (List κ)) := do
  let (v, r) ← value d (2 * t.length + 1) 0 (d.skip t)
  match d.skip r with
  | [] => return v
  | r => .error (.extraData, r)

/-- A fault and its offset. -/
structure Error where
  fault : Fault
  offset : Nat
  deriving DecidableEq, Repr

def readIn (d : Dialect κ) (t : List κ) : Except Error (Value (List κ)) :=
  (readAll d t).mapError fun p => ⟨p.1, t.length - p.2.length⟩

def read (t : Text) : Except Error Value := readIn .strict t

/-- Reads a text with surrogates; so many brackets may be open at once. -/
def readWide (brackets : Nat) (w : Wide) : Except Error (Value Wide) := readIn (.lenient brackets) w

/-! ## Messages -/

/-- The line and the column of an offset, both counted from one. -/
def position (w : Wide) (offset : Nat) : Nat × Nat :=
  let before := w.take offset
  (before.count (.char '\n') + 1, (before.reverse.takeWhile (· != .char '\n')).length + 1)

def Error.message (e : Error) (w : Wide) : Text :=
  let p := position w e.offset
  e.fault.message ++ if e.fault.isPlaced then
      ": line ".toList ++ Text.ofNat p.1 ++ " column ".toList ++ Text.ofNat p.2 ++ " (char ".toList ++
        Text.ofNat e.offset ++ [')']
    else []

end Licensing.Json
