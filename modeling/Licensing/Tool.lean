import Licensing.Config.Load
import Licensing.Document
import Licensing.Scan
import Licensing.Terminal
import Licensing.Tool.Request
/-!
# The tool

A run of the tool reads its command line, does what it is asked to do, and reports: what is printed, what is written
to the log and about errors, and the code it ends with.
-/
namespace Licensing.Tool

open CommandLine (Stop)

variable [Grammar.Stack]

/-- A failure that no message is made for. -/
inductive Crash
  /-- A settings file that is no text. -/
  | undecodable (d : Utf8.Damage)
  /-- A message about an integer of too many digits. -/
  | digits
  /-- A header of more lines than can be counted. -/
  | window
  /-- A bound on the nesting of parentheses without a number. -/
  | noDepth
  /-- A directory without a path. -/
  | noPath
  deriving DecidableEq, Repr

inductive Ending
  | code (n : Nat)
  /-- Right after the text that was asked for. -/
  | shown
  | crash (c : Crash)
  deriving DecidableEq, Repr

structure Report where
  ending : Ending
  stdout : Text
  stderr : Text
  deriving DecidableEq, Repr

def successCode : Nat := 0

def failureCode : Nat := 1

/-- A scan found no evidence of a license. -/
def notFoundCode : Nat := 2

/-- What a command comes to. -/
inductive Verdict
  | printed (text : Text)
  | failed (message : Text)
  | notFound
  | crashed (c : Crash)
  deriving DecidableEq, Repr

def notFoundMessage : Text := "License file not found.".toList

/-- The report of a verdict, behind what the log holds. -/
def Verdict.report (log : Text) : Verdict → Report
  | .printed t => ⟨.code successCode, t, log⟩
  | .failed m => ⟨.code failureCode, [], log ++ Terminal.error m⟩
  | .notFound => ⟨.code notFoundCode, [], log ++ Terminal.error notFoundMessage⟩
  | .crashed c => ⟨.crash c, [], log⟩

/-- An expression that is refused is reported with the kind of its error. -/
def parseMessage (e : ParseError) : Text := '[' :: e.kind.name.toList ++ "] ".toList ++ e.message

/-! ## Parsing -/

/-- An expression in canonical text, or as a document on one line. -/
def ParseRequest.shown (r : ParseRequest) (e : Expr) : Text :=
  (if r.json then Document.textOf none (Document.Compound.ofExpr [] e).toValue else e.render) ++ ['\n']

/-- A bound without a number does no harm as long as there are no parentheses to count. -/
def ParseRequest.parsed? (r : ParseRequest) : Option (Except ParseError Expr) :=
  if r.maxDepth.isNone && r.expression.contains '(' then none
  else some (Grammar.parse r.expression (r.maxDepth.map Int.ofNat))

def ParseRequest.verdict (r : ParseRequest) : Verdict :=
  match r.parsed? with
  | none => .crashed .noDepth
  | some (.ok e) => .printed (r.shown e)
  | some (.error e) => .failed (parseMessage e)

/-! ## Scanning -/

inductive ScanFault
  | load (e : Config.LoadError)
  | scan (e : Scan.Failure)
  | noPath

/-- The parameters of a scan in the directories of its package and its root: all paths are seen from the working
directory. -/
def ScanRequest.params (r : ScanRequest) (d : Disk) (package root : Path) : ScanParams :=
  ⟨r.file.resolve d.cwd, package.resolve d.cwd, root.resolve d.cwd, r.strategy⟩

/-- A scan under the settings of its package. -/
def ScanRequest.scanned (r : ScanRequest) (d : Disk) : Run ScanFault Document.Listing := do
  match r.package with
  | none => Run.fail .noPath
  | some package => do
    let c ← (Config.load d (package.resolve d.cwd)).mapError .load
    match r.root with
    | none => Run.fail .noPath
    | some root => (Scan.scan d (r.params d package root) c).mapError .scan

def scanVerdict : Except ScanFault Document.Listing → Verdict
  | .ok l => .printed (Document.textOf none l.toValue ++ ['\n'])
  | .error (.load (.refused e)) => .failed e.message
  | .error (.load (.undecodable d)) => .crashed (.undecodable d)
  | .error (.load .unshowable) => .crashed .digits
  | .error (.scan (.scan e)) => if e.kind = .licenseOrCopyrightNotFound then .notFound else .failed e.message
  | .error (.scan (.parse e)) => .failed (parseMessage e)
  | .error (.scan .window) => .crashed .window
  | .error .noPath => .crashed .noPath

/-! ## Runs -/

/-- What happens when a request is carried out, and what it comes to. -/
def Request.outcome (r : Request) (d : Disk) : List Log.Event × Verdict :=
  match r.command with
  | some (.scan s) => ((s.scanned d).events, scanVerdict (s.scanned d).result)
  | some (.parse p) => (p.parsed?.toList.map (Scan.parseEvent p.expression), p.verdict)
  | some .help => ([], .printed page.help)
  | none => ([], .printed page.help)

def Request.started (r : Request) : Log.Event :=
  ⟨"tplkit.cli".toList, .debug, "command_started".toList,
    [("command".toList, r.command.elim .null fun c => .ofString c.name.text)]⟩

def Logging.settings (l : Logging) (environment : Text) : Log.Settings :=
  Log.Settings.of l.verbose l.quiet l.json environment

def Request.report (r : Request) (d : Disk) (environment : Text) : Report :=
  let o := r.outcome d
  o.2.report ((r.started :: o.1).flatMap (r.logging.settings environment).write)

def stopped : Stop → Report
  | .help p => ⟨.shown, p.help, []⟩
  | .version => ⟨.shown, name ++ ' ' :: version ++ ['\n'], []⟩
  | .fault p f => ⟨.code failureCode, [], p.usage ++ Terminal.error f.message⟩

/-- A run with the words of a command line; the environment may ask for a log in JSON. -/
def run (d : Disk) (environment : Text) (words : List Text) : Report :=
  match Request.ofWords words with
  | .ok r => r.report d environment
  | .error s => stopped s

/-- The places on the disk that a run looks at. -/
def places (cwd : List Text) (words : List Text) : List Path :=
  match Request.ofWords words with
  | .ok ⟨_, some (.scan r)⟩ => (r.package.toList ++ [r.file]).map (·.resolve cwd)
  | _ => []

/-- What the environment variable for the log is called. -/
def logVariable : String := "TPLKIT_LOG_JSON"

end Licensing.Tool
