import Licensing.Config
import Licensing.Disk
import Licensing.Document.Encoding
import Licensing.Header
import Licensing.Run
/-!
# Scanning a file for its license

A scan collects the license files of a package, reads the header of one of its files, and lists what it found.
-/
namespace Licensing

/-! ## Why a scan has no result -/

inductive ScanErrorKind
  | licenseOrCopyrightNotFound
  | invalidPath
  deriving DecidableEq, Repr

namespace ScanErrorKind

def name : ScanErrorKind → String
  | .licenseOrCopyrightNotFound => "LicenseOrCopyrightNotFound"
  | .invalidPath => "InvalidPath"

def all : List ScanErrorKind := [.licenseOrCopyrightNotFound, .invalidPath]

def ofName? (t : Text) : Option ScanErrorKind := all.find? fun k => k.name.toList = t

end ScanErrorKind

structure ScanError where
  kind : ScanErrorKind
  path : Text
  detail : Text
  deriving DecidableEq, Repr

def ScanError.message (e : ScanError) : Text :=
  e.kind.name.toList ++ ": ".toList ++ e.path ++
    (if e.detail.isEmpty then [] else " (".toList ++ e.detail ++ [')'])

/-! ## Scanning -/

structure ScanParams where
  file : Path
  packageRoot : Path
  root : Path
  /-- Takes the place of the configured strategy. -/
  strategy : Option Strategy
  deriving DecidableEq, Repr

namespace Scan

inductive Failure
  | scan (e : ScanError)
  | parse (e : ParseError)
  /-- A header of more lines than can be counted. -/
  | window
  deriving DecidableEq, Repr

/-- The longest window that can be asked for. -/
def maxWindow : Nat := 0x7FFFFFFFFFFFFFFF

def loggerName : Text := "tplkit.scan".toList

def event (level : Log.Level) (name : String) (values : List (String × Value)) : Log.Event :=
  ⟨loggerName, level, name.toList, values.map fun p => (p.1.toList, p.2)⟩

def badPath (p : Path) (detail : String) : ScanError := ⟨.invalidPath, p.text, detail.toList⟩

/-! ## License files -/

/-- Names whose stem is among `stems`, whatever the case of the letters. -/
def isLicenseName (stems : List Text) (name : Text) : Bool :=
  (stems.map Text.lower).contains (Path.stem name).lower

def insertName (n : Text) : List Text → List Text
  | [] => [n]
  | m :: ms => if Text.le n m then n :: m :: ms else m :: insertName n ms

/-- The license files directly inside a directory, in the order of their names. -/
def licenseNames (d : Disk) (dir : Path) (stems : List Text) : List Text :=
  ((d.fileNames dir).filter (isLicenseName stems)).foldr insertName []

def findLicenseFiles (d : Disk) (dir : Path) (stems : List Text) : Run ScanError (List Path) :=
  if d.isFolder dir then do
    let found := (licenseNames d dir stems).map dir.child
    Run.logAll (found.map fun p => event .debug "license_file_found" [("path", .text p.text)])
    return found
  else Run.fail (badPath dir "package root is not a directory")

/-! ## Headers -/

/-- The first lines of a file. -/
def header (d : Disk) (file : Path) (n : Nat) : Except Failure (List Text) :=
  match d.read file with
  | .error f => .error (.scan (badPath file f.message))
  | .ok content => if maxWindow < n then .error .window else .ok (Header.window n content)

def tag? (d : Disk) (file : Path) (n : Nat) : Except Failure (Option Text) := (header d file n).map Header.tag?

def statements (d : Disk) (file : Path) (n : Nat) : Except Failure (List Header.Statement) :=
  (header d file n).map Header.statements

/-! ## The listing -/

open Document (Include GroupLicense SpdxLicense Listing)

/-- Without evidence there is no license. -/
def arbitrary? (evidence : List Include) : Option GroupLicense :=
  if evidence.isEmpty then none else some (.arbitrary evidence)

/-- The log of an expression that was read. -/
def parseEvent (text : Text) : Except ParseError Expr → Log.Event
  | .ok _ => ⟨"tplkit.spdx._grammar".toList, .debug, "spdx_parsed".toList, [("expression".toList, .text text)]⟩
  | .error e =>
    ⟨"tplkit.spdx._grammar".toList, .debug, "spdx_parse_failed".toList,
      [("expression".toList, .text text), ("kind".toList, .ofString e.kind.name), ("position".toList, .int e.position)]⟩

variable [Grammar.Stack]

/-- The license that a tag names. -/
def taggedLicense (c : Config) (evidence : List Include) (tag : Text) : Run Failure GroupLicense := do
  Run.log (parseEvent tag (Grammar.parse tag (some c.maxDepth)))
  (Run.ofExcept (SpdxLicense.ofText tag [] (some c.maxDepth) evidence)).mapError Failure.parse |>.bind
    fun l => Run.pure (.spdx l)

def licenseFor (d : Disk) (p : ScanParams) (c : Config) (evidence : List Include) :
    Strategy → Run Failure (Option GroupLicense)
  | .file => Run.pure (arbitrary? evidence)
  | .spdxHeader => do
    match ← Run.ofExcept (tag? d p.file c.headerLines) with
    | some tag => do
      Run.log (event .debug "spdx_header_found" [("file", .text p.file.text), ("expression", .text tag)])
      let l ← taggedLicense c evidence tag
      return some l
    | none => do
      Run.log (event .debug "spdx_header_missing" [("file", .text p.file.text)])
      return arbitrary? evidence

def copyrightOf (s : Header.Statement) : Document.Copyright := ⟨s.text, s.year, none⟩

def listing (p : ScanParams) (license : GroupLicense) (found : List Header.Statement) : Listing :=
  let id := p.packageRoot.stripRoot p.root
  ⟨⟨id, id, none⟩, [⟨[p.file.stripRoot p.root], license⟩], found.map copyrightOf, none⟩

def scan (d : Disk) (p : ScanParams) (c : Config) : Run Failure Listing :=
  let strategy := p.strategy.getD c.strategy
  if d.isFile p.file then do
    let files ← (findLicenseFiles d p.packageRoot c.licenseStems).mapError Failure.scan
    let evidence := files.map fun f => Include.file (f.stripRoot p.root)
    match ← licenseFor d p c evidence strategy with
    | none => Run.fail (.scan ⟨.licenseOrCopyrightNotFound, p.packageRoot.text, []⟩)
    | some license => do
      let found ← Run.ofExcept (statements d p.file c.headerLines)
      Run.log (event .info "scan_complete" [("file", .text p.file.text), ("strategy", .ofString strategy.name),
        ("evidence", .int evidence.length)])
      return listing p license found
  else Run.fail (.scan (badPath p.file "not a regular file"))

end Scan
end Licensing
