import Licensing.Json.Reader
import Licensing.Moment
/-!
# Moments in TOML

A day is written with dashes, a time with colons, and both with a letter or a space between them.  The second of a time
may be left out; if it is not, it may have a fraction.
-/
namespace Licensing.Toml

def twoDigits? : Text → Option (Nat × Text)
  | a :: b :: t => if Json.isDigit a && Json.isDigit b then some (Json.digitsValue [a, b], t) else none
  | _ => none

/-- A day of the calendar, and the text behind it. -/
def day? (t : Text) : Option (Day × Text) := do
  let year := t.takeWhile Json.isDigit
  let (month, t) ← twoDigits? (← Text.after? ['-'] (t.drop year.length))
  let (day, t) ← twoDigits? (← Text.after? ['-'] t)
  let d : Day := ⟨Json.digitsValue year, month, day⟩
  if d.isValid then some (d, t) else none

/-- A fraction of a second in microseconds, without rounding. -/
def microsecond? : Text → Option (Nat × Text)
  | '.' :: t =>
    let ds := t.takeWhile Json.isDigit
    if ds.isEmpty then none else some (Json.digitsValue ((ds ++ List.replicate 6 '0').take 6), t.drop ds.length)
  | t => some (0, t)

/-- The second behind a minute with its microseconds, or none of either. -/
def second? : Text → Option (Nat × Nat × Text)
  | ':' :: t => do
    let (second, t) ← twoDigits? t
    let (microsecond, t) ← microsecond? t
    return (second, microsecond, t)
  | t => some (0, 0, t)

/-- A time of day, and the text behind it. -/
def clock? (t : Text) : Option (Clock × Text) := do
  let (hour, t) ← twoDigits? t
  let (minute, t) ← twoDigits? (← Text.after? [':'] t)
  let (second, microsecond, t) ← second? t
  let c : Clock := ⟨hour, minute, second, microsecond⟩
  if c.isValid then some (c, t) else none

def offset? (behind : Bool) (t : Text) : Option Zone := do
  let (hours, t) ← twoDigits? t
  let (minutes, t) ← twoDigits? (← Text.after? [':'] t)
  if hours < 24 && minutes < 60 && t.isEmpty then some (.offset behind hours minutes) else none

/-- What stands behind a time. -/
def zone? : Text → Option (Option Zone)
  | [] => some none
  | ['Z'] => some (some .universal)
  | ['z'] => some (some .universal)
  | '+' :: t => (offset? false t).map some
  | '-' :: t => (offset? true t).map some
  | _ => none

/-- A time on a day. -/
def timeOn? (d : Day) (t : Text) : Option Moment := do
  let (c, t) ← clock? t
  let z ← zone? t
  return .both d c z

/-- A moment that is written as one word. -/
def moment? (t : Text) : Option Moment :=
  match day? t with
  | some (d, []) => some (.day d)
  | some (d, c :: t) => if c = 'T' || c = 't' then timeOn? d t else none
  | none =>
    match clock? t with
    | some (c, []) => some (.clock c)
    | _ => none

end Licensing.Toml
