import Licensing.CommandLine
import Licensing.Disk
import Licensing.Registry.Payload
import Licensing.Registry.Source
/-!
# Writing a new registry

Both lists are fetched and read before anything is written, so the registry on the disk is either the old one or
complete.  There is a limit to the brackets that may be open at once in what is read.
-/
namespace Licensing.Registry.Update

open CommandLine

def programName : Text := "generate_spdx_registry.py".toList

structure Request where
  /-- The tag of a release of the lists; absent if it was asked for without one. -/
  version : Option Text
  output : Path
  deriving DecidableEq, Repr

def Request.start : Request := ⟨some "v3.23".toList, Path.ofText []⟩

def page : Page := .ofLines
  ["usage: generate_spdx_registry.py [-h] [--version VERSION] output"]
  [
    "Generate the SPDX ID registry module.",
    "",
    "positional arguments:",
    "  output             Path of the module to write.",
    "",
    "options:",
    "  -h, --help         show this help message and exit",
    "  --version VERSION  License list release tag (default: v3.23)."]

def spec : Spec Request := ⟨page,
  [⟨["-h".toList, "--help".toList], .help⟩,
    ⟨["--version".toList], .value fun t r => .ok { r with version := t }⟩],
  .one "output".toList fun t r => { r with output := Path.ofText t }⟩

def Request.ofWords (ts : List Text) : Except Stop Request :=
  match spec.read .start ts with
  | .error e => .error e
  | .ok (r, extras) => spec.allUsed extras r

/-! ## Fetching -/

/-- Only addresses of this scheme are fetched. -/
def scheme : Text := "https://".toList

def mayFetch (url : Text) : Bool := url.startsWith scheme

def refusal (url : Text) : Text := "Only https:// URLs are allowed, got: ".toList ++ url

/-- What a request for an address brings. -/
abbrev Web := Text → Except FetchFault Bytes

def fetch (web : Web) (url : Text) : Except FetchFault Bytes :=
  if mayFetch url then web url else .error (.refused (refusal url))

/-- Where a list of a release is published. -/
def url (version : Text) (l : Listed) : Text :=
  "https://raw.githubusercontent.com/spdx/license-list-data/".toList ++ version ++ "/json/".toList ++
    l.name.toList ++ ".json".toList

/-! ## Updating -/

/-- How a release is named in addresses and messages: empty brackets stand for a missing one. -/
def Request.release (r : Request) : Text := r.version.getD "[]".toList

/-- A failure that no message is made for. -/
inductive Crash
  | payload (f : PayloadFault)
  /-- There is no release to name in the new registry. -/
  | noVersion
  | write (f : Disk.Fault) (p : Path)
  deriving DecidableEq, Repr

inductive Ending
  | code (n : Nat)
  /-- Before anything was fetched. -/
  | exit (n : Nat)
  | crash (c : Crash)
  deriving DecidableEq, Repr

structure Report where
  ending : Ending
  stdout : Text
  stderr : Text
  /-- The addresses that were asked for, in order. -/
  requested : List Text
  /-- The disk afterwards. -/
  disk : Disk

/-- Why nothing is written. -/
inductive Failure
  | payload (f : PayloadFault)
  | empty
  deriving DecidableEq, Repr

variable (brackets : Nat)

/-- The identifiers at an address. -/
def idsAt (web : Web) (url : Text) (l : Listed) : Except PayloadFault (List (Value Wide)) :=
  match fetch web url with
  | .error f => .error (.unfetched f)
  | .ok bs => idsOfBytes brackets l bs

/-- The identifiers of both lists.  The second list is asked for only when the first has been read. -/
def fetchIds (web : Web) (version : Text) : List Text × Except Failure (List (Value Wide) × List (Value Wide)) :=
  let first := url version .licenses
  match idsAt brackets web first .licenses with
  | .error f => ([first], .error (.payload f))
  | .ok ls =>
    let second := url version .exceptions
    ([first, second],
      match idsAt brackets web second .exceptions with
      | .error f => .error (.payload f)
      | .ok es => if ls.isEmpty || es.isEmpty then .error .empty else .ok (ls, es))

def errorLine (message : Text) : Text := "error: ".toList ++ message ++ ['\n']

def writtenLine (licenses exceptions : Nat) (output : Path) : Text :=
  "wrote ".toList ++ Text.ofNat licenses ++ " licenses and ".toList ++ Text.ofNat exceptions ++
    " exceptions to ".toList ++ output.text ++ ['\n']

def failed (r : Request) (d : Disk) (urls : List Text) : Failure → Report
  | .empty =>
    ⟨.code 1, [], errorLine ("SPDX list ".toList ++ r.release ++ " has no licenses or no exceptions".toList), urls, d⟩
  | .payload f =>
    match f.message? with
    | some m =>
      ⟨.code 1, [], errorLine ("could not fetch SPDX list ".toList ++ r.release ++ ": ".toList ++ m), urls, d⟩
    | none => ⟨.crash (.payload f), [], [], urls, d⟩

def Request.report (r : Request) (web : Web) (d : Disk) : Report :=
  let (urls, ids) := fetchIds brackets web r.release
  match ids with
  | .error f => failed r d urls f
  | .ok (ls, es) =>
    match r.version with
    | none => ⟨.crash .noVersion, [], [], urls, d⟩
    | some version =>
      match d.write r.output (Utf8.encode (source version ls es)) with
      | .ok d => ⟨.code 0, writtenLine ls.length es.length r.output, [], urls, d⟩
      | .error f => ⟨.crash (.write f r.output), [], [], urls, d⟩

def stopped (d : Disk) : Stop → Report
  | .help p => ⟨.exit 0, p.help, [], [], d⟩
  | .version => ⟨.exit 0, [], [], [], d⟩
  | .fault p f => ⟨.exit 2, [], p.usage ++ programName ++ ": error: ".toList ++ f.message ++ ['\n'], [], d⟩

def run (web : Web) (d : Disk) (words : List Text) : Report :=
  match Request.ofWords words with
  | .ok r => r.report brackets web d
  | .error s => stopped d s

end Licensing.Registry.Update
