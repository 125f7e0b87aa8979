import Licensing.Text.Integer
import Licensing.Text.Printable
/-!
# Command lines

A command line is a list of words.  A word that names a switch sets something off, with or without a value; the other
words are operands.  A long name may be cut short as long as no other name begins so, letters may share one dash, and
a word of two dashes makes operands of all words behind it.  A value of two dashes that is joined to its switch is as
good as none.

Reading a command line first finds out what each word is, and then goes through the words from left to right.
-/
namespace Licensing.CommandLine

/-- What a program says about its command line: the lines that show its form, and the explanations. -/
structure Page where
  usage : Text
  details : Text
  deriving DecidableEq, Repr

def Page.ofLines (usage details : List String) : Page :=
  let lines (ls : List String) : Text := ls.flatMap fun l => l.toList ++ ['\n']
  ⟨lines usage, lines details⟩

def Page.help (p : Page) : Text := p.usage ++ '\n' :: p.details

/-- Why a command line is refused. -/
inductive Fault
  | ambiguous (word : Text) (names : List Text)
  | needlessValue (argument value : Text)
  | missingValue (argument : Text)
  | refused (argument why : Text)
  | missing (operand : Text)
  | unrecognized (words : List Text)
  deriving DecidableEq, Repr

def Fault.about (argument : Text) (why : Text) : Text := "argument ".toList ++ argument ++ ": ".toList ++ why

def Fault.message : Fault → Text
  | .ambiguous w ns =>
    "ambiguous option: ".toList ++ w ++ " could match ".toList ++ Text.join ", ".toList ns
  | .needlessValue a v => about a ("ignored explicit argument ".toList ++ Text.quoted v)
  | .missingValue a => about a "expected one argument".toList
  | .refused a why => about a why
  | .missing o => "the following arguments are required: ".toList ++ o
  | .unrecognized ws => "unrecognized arguments: ".toList ++ Text.join [' '] ws

/-- Why reading a command line stops early. -/
inductive Stop
  | help (page : Page)
  | version
  | fault (page : Page) (f : Fault)
  deriving DecidableEq, Repr

/-- What a switch does to the settings read so far. -/
inductive Effect (σ : Type)
  | help
  | version
  | flag (set : σ → σ)
  | value (set : Option Text → σ → Except Text σ)

structure Switch (σ : Type) where
  names : List Text
  effect : Effect σ

/-- What the words that are no switches are for: nothing, one place, or the name of a command to which all words
behind it belong. -/
inductive Operand (σ : Type)
  | absent
  | one (name : Text) (set : Text → σ → σ)
  | command (name : Text) (set : Text → List Text → σ → Except Text σ)

structure Spec (σ : Type) where
  page : Page
  switches : List (Switch σ)
  operand : Operand σ

variable {σ : Type}

def Switch.takesValue (w : Switch σ) : Bool :=
  match w.effect with
  | .value _ => true
  | _ => false

def Switch.title (w : Switch σ) : Text := Text.join ['/'] w.names

/-- The message for a value that is none of a list of words. -/
def notAmong (names : List Text) (value : Text) : Text :=
  "invalid choice: ".toList ++ Text.quoted value ++ " (choose from ".toList ++
    Text.join ", ".toList (names.map Text.quoted) ++ [')']

/-! ## What each word is -/

def separator : Text := ['-', '-']

inductive Word (σ : Type)
  | operand
  | separator
  /-- A long name, with the value that is joined to it by an equals sign. -/
  | long (w : Switch σ) (value : Option Text)
  /-- A dash and a letter, with the rest of the word but for an equals sign in front of it. -/
  | letters (w : Switch σ) (rest : Option Text)
  | unknown

namespace Spec

/-- All names, each with its switch. -/
def table (s : Spec σ) : List (Text × Switch σ) := s.switches.flatMap fun w => w.names.map (·, w)

def find? (s : Spec σ) (name : Text) : Option (Switch σ) := s.table.lookup name

end Spec

/-- A dash and digits, with a point among or before them or none, is a number and no switch. -/
def isNegativeNumber : Text → Bool
  | '-' :: t =>
    let t := (Text.before? ['\n'] t).getD t
    match t.dropWhile Text.isDigit with
    | [] => !t.isEmpty
    | '.' :: r => !r.isEmpty && r.all Text.isDigit
    | _ => false
  | _ => false

/-- A word that begins with a dash and names no switch. -/
def strayWord (t : Text) : Word σ := if isNegativeNumber t || t.contains ' ' then .operand else .unknown

namespace Spec

/-- A word that begins with two dashes. -/
def longWord (s : Spec σ) (t : Text) : Except Fault (Word σ) :=
  let (name, value) := match Text.cut? ['='] t with
    | some (n, v) => (n, some v)
    | none => (t, none)
  match s.find? name with
  | some w => .ok (.long w value)
  | none =>
    match s.table.filter fun e => e.1.startsWith name with
    | [] => .ok (strayWord t)
    | [(_, w)] => .ok (.long w value)
    | es => .error (.ambiguous t (es.map Prod.fst))

/-- What stands behind a letter. -/
def restOf : Text → Option Text
  | [] => none
  | '=' :: t => some t
  | t => some t

def word (s : Spec σ) (t : Text) : Except Fault (Word σ) :=
  match t with
  | '-' :: '-' :: _ => s.longWord t
  | '-' :: c :: rest =>
    match s.find? ['-', c] with
    | some w => .ok (.letters w (restOf rest))
    | none => .ok (strayWord t)
  | _ => .ok .operand

def words (s : Spec σ) : List Text → Except Fault (List (Text × Word σ))
  | [] => .ok []
  | t :: ts =>
    if t = separator then .ok ((t, .separator) :: ts.map (·, .operand))
    else do
      let w ← s.word t
      let ws ← s.words ts
      return (t, w) :: ws

end Spec

/-! ## What the words do -/

/-- What a word of switches ends in: the last of its flags, a switch with its value, or a switch whose value is the
next word. -/
inductive Tail (σ : Type)
  | finished
  | given (w : Switch σ) (value : Text)
  | waiting (w : Switch σ)

/-- The flags of a word of switches, and its end. -/
abbrev Burst (σ : Type) := List (Switch σ) × Tail σ

namespace Switch

/-- A switch without a value in its own word. -/
def bare (w : Switch σ) : Burst σ := if w.takesValue then ([], .waiting w) else ([w], .finished)

/-- A switch with a value in its own word. -/
def assigned (w : Switch σ) (value : Text) : Except Fault (Burst σ) :=
  if w.takesValue then .ok ([], .given w value) else .error (.needlessValue w.title value)

end Switch

namespace Spec

/-- The text that is joined to a switch: the value of one that takes a value, and else the letters of more
switches. -/
def burst (s : Spec σ) (w : Switch σ) : Text → Except Fault (Burst σ)
  | [] => .ok w.bare
  | c :: t =>
    if w.takesValue then .ok ([], .given w (c :: t))
    else match s.find? ['-', c] with
      | none => .error (.needlessValue w.title (c :: t))
      | some next => (s.burst next t).map fun b => (w :: b.1, b.2)

def longBurst (w : Switch σ) : Option Text → Except Fault (Burst σ)
  | none => .ok w.bare
  | some v => w.assigned v

def letterBurst (s : Spec σ) (w : Switch σ) : Option Text → Except Fault (Burst σ)
  | none => .ok w.bare
  | some [] => w.assigned []
  | some (c :: t) => s.burst w (c :: t)

def fail {α : Type} (s : Spec σ) (f : Fault) : Except Stop α := .error (.fault s.page f)

/-- Two dashes are no value. -/
def giveValue (s : Spec σ) (st : σ) (w : Switch σ) (v : Text) : Except Stop σ :=
  match w.effect with
  | .value set =>
    (set (if v = separator then none else some v) st).mapError fun why => .fault s.page (.refused w.title why)
  | _ => .ok st

def setFlag (s : Spec σ) (st : σ) (w : Switch σ) : Except Stop σ :=
  match w.effect with
  | .help => .error (.help s.page)
  | .version => .error .version
  | .flag set => .ok (set st)
  | .value _ => .ok st

def setFlags (s : Spec σ) (st : σ) : List (Switch σ) → Except Stop σ
  | [] => .ok st
  | w :: ws =>
    match s.setFlag st w with
    | .ok st => setFlags s st ws
    | .error e => .error e

end Spec

/-- What has become of the place of the operand.  A separator right behind the operand goes with it. -/
inductive Place
  | empty
  | justFilled
  | filled
  /-- A command and its words so far. -/
  | command (name : Text) (rest : List Text)
  deriving DecidableEq, Repr

def Place.settled : Place → Place
  | .justFilled => .filled
  | p => p

/-- How far the reading has come. -/
structure Progress (σ : Type) where
  settings : σ
  place : Place
  /-- Flags and the switch behind them whose value is the next word. -/
  waiting : Option (List (Switch σ) × Switch σ)
  /-- Words that nothing was made of. -/
  extras : List Text

def Progress.start (st : σ) : Progress σ := ⟨st, .empty, none, []⟩

def Progress.stray (g : Progress σ) (t : Text) : Progress σ :=
  { g with place := g.place.settled, extras := g.extras ++ [t] }

namespace Spec

def takeOperand (s : Spec σ) (g : Progress σ) (t : Text) : Progress σ :=
  match s.operand, g.place with
  | .one _ set, .empty => { g with settings := set t g.settings, place := .justFilled }
  | .command _ _, .empty => { g with place := .command t [] }
  | _, _ => g.stray t

def takeSeparator (s : Spec σ) (g : Progress σ) : Progress σ :=
  match s.operand, g.place with
  | .one _ _, .empty => g
  | .one _ _, .justFilled => { g with place := .filled }
  | .command _ _, .empty => { g with place := .command separator [] }
  | _, _ => g.stray separator

/-- Flags that come before a value are set together with it. -/
def takeBurst (s : Spec σ) (g : Progress σ) (b : Burst σ) : Except Stop (Progress σ) :=
  let g := { g with place := g.place.settled }
  match b.2 with
  | .waiting w => .ok { g with waiting := some (b.1, w) }
  | .finished => do
    let st ← s.setFlags g.settings b.1
    return { g with settings := st }
  | .given w v => do
    let st ← s.setFlags g.settings b.1
    let st ← s.giveValue st w v
    return { g with settings := st }

/-- The next word.  Only an operand can be the value of a switch that waits for one. -/
def step (s : Spec σ) (g : Progress σ) (t : Text) (w : Word σ) : Except Stop (Progress σ) :=
  match g.waiting, g.place, w with
  | some (flags, v), _, .operand => do
    let st ← s.setFlags g.settings flags
    let st ← s.giveValue st v t
    return { g with settings := st, waiting := none }
  | some (_, v), _, _ => s.fail (.missingValue v.title)
  | none, .command name rest, _ => .ok { g with place := .command name (rest ++ [t]) }
  | none, _, .operand => .ok (s.takeOperand g t)
  | none, _, .separator => .ok (s.takeSeparator g)
  | none, _, .unknown => .ok (g.stray t)
  | none, _, .long w v =>
    match longBurst w v with
    | .error f => s.fail f
    | .ok b => s.takeBurst g b
  | none, _, .letters w rest =>
    match s.letterBurst w rest with
    | .error f => s.fail f
    | .ok b => s.takeBurst g b

def run (s : Spec σ) (g : Progress σ) : List (Text × Word σ) → Except Stop (Progress σ)
  | [] => .ok g
  | (t, w) :: ws =>
    match s.step g t w with
    | .ok g => run s g ws
    | .error e => .error e

/-- The settings at the end of the words, and the words that nothing was made of.  A separator alone names no
command. -/
def finish (s : Spec σ) (g : Progress σ) : Except Stop (σ × List Text) :=
  match g.waiting, s.operand, g.place with
  | some (_, v), _, _ => s.fail (.missingValue v.title)
  | none, .one name _, .empty => s.fail (.missing name)
  | none, .command name set, .command t rest =>
    if t = separator && rest.isEmpty then .ok (g.settings, g.extras ++ [t])
    else match set t rest g.settings with
      | .ok st => .ok (st, g.extras)
      | .error why => s.fail (.refused name why)
  | none, _, _ => .ok (g.settings, g.extras)

/-- Reads a command line onto settings to begin with. -/
def read (s : Spec σ) (st : σ) (ts : List Text) : Except Stop (σ × List Text) :=
  match s.words ts with
  | .error f => s.fail f
  | .ok ws =>
    match s.run (.start st) ws with
    | .ok g => s.finish g
    | .error e => .error e

/-- Every word must have a use. -/
def allUsed {α : Type} (s : Spec σ) (extras : List Text) (a : α) : Except Stop α :=
  if extras.isEmpty then .ok a else s.fail (.unrecognized extras)

end Spec
end Licensing.CommandLine
