import Licensing.Json.Writer
import Licensing.Text.Integer
import Licensing.Text.LetterCase
/-!
# Log lines

An event has a name, a level, the name of its logger and a list of values.  It is written as one line, for people or
as JSON, if its level reaches the threshold.
-/
namespace Licensing.Log

inductive Level
  | debug
  | info
  | warning
  | error
  deriving DecidableEq, Repr

def Level.name : Level → String
  | .debug => "debug"
  | .info => "info"
  | .warning => "warning"
  | .error => "error"

def Level.rank : Level → Nat
  | .debug => 10
  | .info => 20
  | .warning => 30
  | .error => 40

structure Event where
  logger : Text
  level : Level
  name : Text
  values : Fields
  deriving DecidableEq, Repr

structure Settings where
  threshold : Level
  json : Bool
  deriving DecidableEq, Repr

/-- The words that switch JSON lines on from the environment. -/
def jsonWords : List Text := ["1".toList, "true".toList, "yes".toList]

/-- Quiet wins over verbose. -/
def Settings.of (verbose quiet json : Bool) (environment : Text) : Settings :=
  ⟨if quiet then .warning else if verbose then .debug else .info,
    json || jsonWords.contains (Text.trim environment).lower⟩

/-- Where the time of the event would stand. -/
def stamp : Text := "<TS>".toList

def eventKey : Text := "event".toList
def levelKey : Text := "level".toList
def loggerKey : Text := "logger".toList
def timestampKey : Text := "timestamp".toList

def Event.fields (e : Event) : Fields :=
  (((e.values.put eventKey (.text e.name)).put levelKey (.ofString e.level.name)).put loggerKey (.text e.logger)).put
    timestampKey (.text stamp)

/-- The keys that every line shows in places of their own. -/
def ownKeys : List Text := [eventKey, levelKey, loggerKey, timestampKey]

/-- A text is shown bare unless that would blur where it ends. -/
def isBare (t : Text) : Bool := !t.any fun c => c.isWhitespace || c == '=' || c == '"' || c == '\''

def shown : Value → Text
  | .text t => if isBare t then t else Text.quoted t
  | v => v.shown

def insertByKey (f : Text × Value) : Fields → Fields
  | [] => [f]
  | g :: gs => if Text.le f.1 g.1 then f :: g :: gs else g :: insertByKey f gs

/-- The values of an event in the order of their keys. -/
def Event.extras (e : Event) : Fields :=
  (e.fields.filter fun f => !(ownKeys.contains f.1)).foldr insertByKey []

def Event.consoleLine (e : Event) : Text :=
  stamp ++ " [".toList ++ Text.padTo 9 e.level.name.toList ++ "] ".toList ++ Text.padTo 30 e.name ++
    " [".toList ++ e.logger ++ [']'] ++ e.extras.flatMap fun f => ' ' :: f.1 ++ '=' :: shown f.2

def Event.jsonLine (e : Event) : Text := Json.render .line (.record e.fields)

/-- What is written for an event. -/
def Settings.write (s : Settings) (e : Event) : Text :=
  if e.level.rank < s.threshold.rank then []
  else (if s.json then e.jsonLine else e.consoleLine) ++ ['\n']

end Licensing.Log
