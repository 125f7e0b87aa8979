import Licensing.Text
/-!
# Moments

A day of the calendar, a time of day, or both together, which may say how far they are from universal time.
-/
namespace Licensing

structure Day where
  year : Nat
  month : Nat
  day : Nat
  deriving DecidableEq, Repr

namespace Day

def lastYear : Nat := 9999

def isLeap (year : Nat) : Bool := year % 4 = 0 && (year % 100 ≠ 0 || year % 400 = 0)

def lastDay (year month : Nat) : Nat :=
  if month = 2 then (if isLeap year then 29 else 28) else if [4, 6, 9, 11].contains month then 30 else 31

/-- Whether the calendar has such a day. -/
def isValid (d : Day) : Bool :=
  1 ≤ d.year && d.year ≤ lastYear && 1 ≤ d.month && d.month ≤ 12 && 1 ≤ d.day && d.day ≤ lastDay d.year d.month

end Day

structure Clock where
  hour : Nat
  minute : Nat
  second : Nat
  microsecond : Nat
  deriving DecidableEq, Repr

/-- Whether a day has such a time. -/
def Clock.isValid (c : Clock) : Bool := c.hour < 24 && c.minute < 60 && c.second < 60

inductive Zone
  | universal
  | offset (behind : Bool) (hours minutes : Nat)
  deriving DecidableEq, Repr

inductive Moment
  | day (d : Day)
  | clock (c : Clock)
  | both (d : Day) (c : Clock) (z : Option Zone)
  deriving DecidableEq, Repr

/-! How a moment is shown in a message. -/

/-- A name with its parts in parentheses. -/
def Moment.form (name : String) (parts : List Text) : Text :=
  name.toList ++ '(' :: Text.join ", ".toList parts ++ [')']

def Day.parts (d : Day) : List Text := [d.year, d.month, d.day].map Text.ofNat

/-- Zeros at the end are left out, but not the hour and the minute. -/
def Clock.parts (c : Clock) : List Text :=
  ([c.hour, c.minute] ++
    if c.microsecond ≠ 0 then [c.second, c.microsecond] else if c.second ≠ 0 then [c.second] else []).map Text.ofNat

/-- A number of at least so many digits. -/
def Moment.padded (width n : Nat) : Text := List.replicate (width - (Text.ofNat n).length) '0' ++ Text.ofNat n

def Zone.name : Zone → Text
  | .universal => "UTC".toList
  | .offset behind h m => (if behind then '-' else '+') :: Moment.padded 2 h ++ ':' :: Moment.padded 2 m

/-- A distance into the past is shown as a day back and the seconds forward from there. -/
def Zone.distance : Zone → Text
  | .universal => Moment.form "datetime.timedelta" [['0']]
  | .offset behind h m =>
    let seconds := (h * 60 + m) * 60
    if seconds = 0 then Moment.form "datetime.timedelta" [['0']]
    else if behind then
      Moment.form "datetime.timedelta" ["days=-1".toList, "seconds=".toList ++ Text.ofNat (24 * 60 * 60 - seconds)]
    else Moment.form "datetime.timedelta" ["seconds=".toList ++ Text.ofNat seconds]

def Zone.shown (z : Zone) : Text := Moment.form "datetime.timezone" [z.distance, '\'' :: z.name ++ ['\'']]

def Moment.shown : Moment → Text
  | .day d => Moment.form "datetime.date" d.parts
  | .clock c => Moment.form "datetime.time" c.parts
  | .both d c z =>
    Moment.form "datetime.datetime" (d.parts ++ c.parts ++ z.toList.map fun z => "tzinfo=".toList ++ z.shown)

/-! How a moment is printed by itself. -/

def Day.printed (d : Day) : Text :=
  Moment.padded 4 d.year ++ '-' :: Moment.padded 2 d.month ++ '-' :: Moment.padded 2 d.day

def Clock.printed (c : Clock) : Text :=
  Moment.padded 2 c.hour ++ ':' :: Moment.padded 2 c.minute ++ ':' :: Moment.padded 2 c.second ++
    if c.microsecond = 0 then [] else '.' :: Moment.padded 6 c.microsecond

def Zone.printed : Zone → Text
  | .universal => "+00:00".toList
  | z => z.name

def Moment.printed : Moment → Text
  | .day d => d.printed
  | .clock c => c.printed
  | .both d c z => d.printed ++ ' ' :: c.printed ++ z.elim [] Zone.printed

end Licensing
