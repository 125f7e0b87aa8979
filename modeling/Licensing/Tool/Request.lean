import Licensing.CommandLine
import Licensing.Config
import Licensing.Path
import Licensing.Text.Integer
/-!
# What the tool is asked to do

The command line of the tool: three switches for the log, and a command with a command line of its own.
-/
namespace Licensing.Tool

open CommandLine

def version : Text := "0.1.0".toList

def name : Text := "tplkit".toList

inductive CommandName
  | scan
  | parse
  | help
  deriving DecidableEq, Repr

def CommandName.text : CommandName → String
  | .scan => "scan"
  | .parse => "parse"
  | .help => "help"

def CommandName.all : List CommandName := [.scan, .parse, .help]

def CommandName.ofText? (t : Text) : Option CommandName := all.find? fun n => n.text.toList = t

/-- The switches for the log. -/
structure Logging where
  verbose : Bool
  quiet : Bool
  json : Bool
  deriving DecidableEq, Repr

structure ParseRequest where
  expression : Text
  json : Bool
  /-- Absent if it was asked for without a number. -/
  maxDepth : Option Nat
  deriving DecidableEq, Repr

structure ScanRequest where
  file : Path
  /-- Absent if it was asked for without a path, as the root may be. -/
  package : Option Path
  root : Option Path
  strategy : Option Strategy
  deriving DecidableEq, Repr

inductive Command
  | scan (r : ScanRequest)
  | parse (r : ParseRequest)
  | help
  deriving DecidableEq, Repr

def Command.name : Command → CommandName
  | .scan _ => .scan
  | .parse _ => .parse
  | .help => .help

structure Request where
  logging : Logging
  command : Option Command
  deriving DecidableEq, Repr

/-- The switch that every command line has. -/
def helpSwitch {σ : Type} : Switch σ := ⟨["-h".toList, "--help".toList], .help⟩

/-- What is read from a value, if there is one. -/
def present {α : Type} (read : Text → Except Text α) : Option Text → Except Text (Option α)
  | none => .ok none
  | some t => (read t).map some

/-! ## Parsing -/

def parsePage : Page := .ofLines
  ["usage: tplkit parse [-h] [--json] [--max-depth N] EXPRESSION"]
  [
    "positional arguments:",
    "  EXPRESSION     SPDX license expression.",
    "",
    "options:",
    "  -h, --help     show this help message and exit",
    "  --json         Print the JSON encoding instead of text.",
    "  --max-depth N  Reject parentheses nested deeper than N (default: 64)."]

/-- A depth is an integer from one to the greatest depth. -/
def depthOf (t : Text) : Except Text Nat :=
  match Text.integer? t with
  | none => .error ("not an integer: ".toList ++ Text.quoted t)
  | some n =>
    if 1 ≤ n && n ≤ Config.maxMaxDepth then .ok n.toNat
    else .error ("must be between 1 and ".toList ++ Text.ofNat Config.maxMaxDepth ++ ", got ".toList ++ Text.ofInt n)

def parseSpec : Spec ParseRequest := ⟨parsePage,
  [helpSwitch,
    ⟨["--json".toList], .flag fun r => { r with json := true }⟩,
    ⟨["--max-depth".toList], .value fun t r => (present depthOf t).map fun n => { r with maxDepth := n }⟩],
  .one "EXPRESSION".toList fun t r => { r with expression := t }⟩

def ParseRequest.start : ParseRequest := ⟨[], false, some Config.maxMaxDepth⟩

/-! ## Scanning -/

def scanPage : Page := .ofLines
  [
    "usage: tplkit scan [-h] [--strategy \x7bfile,spdx-header\x7d] [--package PACKAGE]",
    "                   [--root ROOT]",
    "                   FILE"]
  [
    "positional arguments:",
    "  FILE                  File to scan.",
    "",
    "options:",
    "  -h, --help            show this help message and exit",
    "  --strategy \x7bfile,spdx-header\x7d, -s \x7bfile,spdx-header\x7d",
    "                        Scan strategy (default: from config, else \"file\").",
    "  --package PACKAGE, -p PACKAGE",
    "                        Package directory (default: current directory).",
    "  --root ROOT           Root directory output paths are relative to (default:",
    "                        current directory)."]

def strategyNames : List Text := Strategy.all.map fun s => s.name.toList

def strategyOf (t : Text) : Except Text Strategy :=
  match Strategy.ofName? t with
  | some s => .ok s
  | none => .error (notAmong strategyNames t)

def scanSpec : Spec ScanRequest := ⟨scanPage,
  [helpSwitch,
    ⟨["--strategy".toList, "-s".toList],
      .value fun t r => (present strategyOf t).map fun s => { r with strategy := s }⟩,
    ⟨["--package".toList, "-p".toList], .value fun t r => .ok { r with package := t.map Path.ofText }⟩,
    ⟨["--root".toList], .value fun t r => .ok { r with root := t.map Path.ofText }⟩],
  .one "FILE".toList fun t r => { r with file := Path.ofText t }⟩

def here : Path := Path.ofText ['.']

def ScanRequest.start : ScanRequest := ⟨here, some here, some here, none⟩

/-! ## Help -/

def helpPage : Page := .ofLines
  ["usage: tplkit help [-h]"]
  [
    "options:",
    "  -h, --help  show this help message and exit"]

def helpSpec : Spec Unit := ⟨helpPage, [helpSwitch], .absent⟩

/-! ## The whole command line -/

def page : Page := .ofLines
  ["usage: tplkit [-h] [--version] [-v] [-q] [--json-log] COMMAND ..."]
  [
    "Find third-party license evidence and parse SPDX expressions.",
    "",
    "positional arguments:",
    "  COMMAND",
    "    scan         Scan license evidence for a file.",
    "    parse        Parse and normalize an SPDX expression.",
    "    help         Show this message.",
    "",
    "options:",
    "  -h, --help     show this help message and exit",
    "  --version      show program's version number and exit",
    "  -v, --verbose  Enable debug logging.",
    "  -q, --quiet    Only log warnings and errors.",
    "  --json-log     Emit logs as JSON lines."]

/-- What stands in front: the switches for the log, and a command with its words. -/
structure Front where
  logging : Logging
  command : Option (CommandName × List Text)
  deriving DecidableEq, Repr

def Front.start : Front := ⟨⟨false, false, false⟩, none⟩

def commandOf (t : Text) : Except Text CommandName :=
  match CommandName.ofText? t with
  | some n => .ok n
  | none => .error (notAmong (CommandName.all.map fun n => n.text.toList) t)

def spec : Spec Front := ⟨page,
  [helpSwitch,
    ⟨["--version".toList], .version⟩,
    ⟨["-v".toList, "--verbose".toList], .flag fun f => { f with logging := { f.logging with verbose := true } }⟩,
    ⟨["-q".toList, "--quiet".toList], .flag fun f => { f with logging := { f.logging with quiet := true } }⟩,
    ⟨["--json-log".toList], .flag fun f => { f with logging := { f.logging with json := true } }⟩],
  .command "COMMAND".toList fun t ts f => (commandOf t).map fun n => { f with command := some (n, ts) }⟩

/-- A command from its words, and the words that nothing was made of. -/
def readCommand (n : CommandName) (ts : List Text) : Except Stop (Command × List Text) :=
  match n with
  | .scan => (scanSpec.read .start ts).map fun o => (.scan o.1, o.2)
  | .parse => (parseSpec.read .start ts).map fun o => (.parse o.1, o.2)
  | .help => (helpSpec.read () ts).map fun o => (.help, o.2)

/-- Words without a use are reported for the whole command line, those in front first. -/
def Request.ofWords (ts : List Text) : Except Stop Request :=
  match spec.read .start ts with
  | .error e => .error e
  | .ok (f, extras) =>
    match f.command with
    | none => spec.allUsed extras ⟨f.logging, none⟩
    | some (n, ts) =>
      match readCommand n ts with
      | .error e => .error e
      | .ok (c, more) => spec.allUsed (extras ++ more) ⟨f.logging, some c⟩

end Licensing.Tool
