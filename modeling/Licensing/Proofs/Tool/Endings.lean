import Licensing.Proofs.Config.Loading
import Licensing.Proofs.Scan.Decision
import Licensing.Tool
/-!
# How a run ends

A run that is not stopped by its own command line ends with a code, or with a failure that no message is made for.
`Breaks` says on which disks and for which commands the latter happens; all other failures are reported.
-/
namespace Licensing.Tool

open CommandLine (Stop)

variable {d : Disk} {q : ScanRequest}

/-- The failures that no message is made for, and what brings them about. -/
inductive Breaks (d : Disk) : Command → Crash → Prop
  | noDepth {q : ParseRequest} (hd : q.maxDepth = none) (hp : '(' ∈ q.expression) : Breaks d (.parse q) .noDepth
  | noPackage {q : ScanRequest} (h : q.package = none) : Breaks d (.scan q) .noPath
  | undecodable {q : ScanRequest} {package p : Path} {b : Bytes} {x : Utf8.Damage} (h : q.package = some package)
      (hc : Config.Consults d (package.resolve d.cwd) p b) (hb : Utf8.decode b = .error x) :
      Breaks d (.scan q) (.undecodable x)
  | digits {q : ScanRequest} {package : Path} {source : Text} {fs : Fields} {e : Config.Error}
      (h : q.package = some package) (hc : Config.Holds d (package.resolve d.cwd) source fs)
      (he : Config.ofTable source fs = .error e) (hs : e.fault.isShowable = false) : Breaks d (.scan q) .digits
  | noRoot {q : ScanRequest} {package : Path} {c : Config} (h : q.package = some package)
      (hc : Config.Loads d (package.resolve d.cwd) (.ok c)) (hr : q.root = none) : Breaks d (.scan q) .noPath
  | window {q : ScanRequest} {package root : Path} {c : Config} (h : q.package = some package)
      (hc : Config.Loads d (package.resolve d.cwd) (.ok c)) (hr : q.root = some root)
      (hg : Scan.Grounded d (q.params d package root)) (hn : Scan.maxWindow < c.headerLines)
      (hs : Scan.strategy (q.params d package root) c = .spdxHeader ∨
        Scan.evidence d (q.params d package root) c ≠ []) :
      Breaks d (.scan q) .window

/-! ## Scanning -/

theorem result_scanned_of_no_package [Grammar.Stack] (h : q.package = none) :
    (q.scanned d).result = .error .noPath := by
  rw [ScanRequest.scanned, h]
  rfl

theorem result_scanned_of_load_error [Grammar.Stack] {package : Path} {e : Config.LoadError}
    (h : q.package = some package) (hc : Config.Loads d (package.resolve d.cwd) (.error e)) :
    (q.scanned d).result = .error (.load e) := by
  rw [ScanRequest.scanned, h]
  refine Run.result_bind_of_error ?_ _
  rw [Run.result_mapError, hc.result_eq]
  rfl

theorem result_scanned_of_load_ok [Grammar.Stack] {package : Path} {c : Config} (h : q.package = some package)
    (hc : Config.Loads d (package.resolve d.cwd) (.ok c)) :
    (q.scanned d).result =
      match q.root with
      | none => .error .noPath
      | some root => (Scan.scan d (q.params d package root) c).result.mapError .scan := by
  rw [ScanRequest.scanned, h]
  refine (Run.result_bind_of_ok (a := c) ?_ _).trans ?_
  · rw [Run.result_mapError, hc.result_eq]
    rfl
  · cases q.root <;> rfl

theorem scanVerdict_scan_eq_crashed_iff {r : Except Scan.Failure Document.Listing} {c : Crash} :
    scanVerdict (r.mapError .scan) = .crashed c ↔ c = .window ∧ r = .error .window := by
  rcases r with (e | e | _) | l
  · simp only [mapError_error, scanVerdict]
    split_ifs <;> simp
  · simp [scanVerdict]
  · simp [scanVerdict, eq_comm]
  · simp [scanVerdict]

theorem Breaks.scanVerdict_eq [Grammar.Stack] {c : Crash} (h : Breaks d (.scan q) c) :
    scanVerdict (q.scanned d).result = .crashed c := by
  cases h with
  | noPackage h => rw [result_scanned_of_no_package h, scanVerdict]
  | undecodable h hc hb => rw [result_scanned_of_load_error h (.undecodable hc hb), scanVerdict]
  | digits h hc he hs => rw [result_scanned_of_load_error h (.unshowable hc he hs), scanVerdict]
  | noRoot h hc hr =>
    rw [result_scanned_of_load_ok h hc, hr]
    rfl
  | window h hc hr hg hn hs =>
    rw [result_scanned_of_load_ok h hc, hr]
    exact scanVerdict_scan_eq_crashed_iff.2 ⟨rfl, Scan.Decides.result_eq (.uncounted hg hn hs)⟩

theorem Breaks.of_scan [Grammar.Stack] {package : Path} {cfg : Config} {c : Crash} (h : q.package = some package)
    (hc : Config.Loads d (package.resolve d.cwd) (.ok cfg)) (hv : scanVerdict (q.scanned d).result = .crashed c) :
    Breaks d (.scan q) c := by
  rw [result_scanned_of_load_ok h hc] at hv
  cases hr : q.root with
  | none =>
    rw [hr] at hv
    cases hv
    exact .noRoot h hc hr
  | some root =>
    rw [hr] at hv
    obtain ⟨rfl, hw⟩ := scanVerdict_scan_eq_crashed_iff.1 hv
    cases Scan.result_eq_iff_decides.1 hw with
    | uncounted hg hn hs => exact .window h hc hr hg hn hs

theorem Breaks.of_scanVerdict [Grammar.Stack] {c : Crash} (hv : scanVerdict (q.scanned d).result = .crashed c) :
    Breaks d (.scan q) c := by
  cases h : q.package with
  | none =>
    rw [result_scanned_of_no_package h] at hv
    cases hv
    exact .noPackage h
  | some package =>
    obtain ⟨r, hl⟩ := Config.exists_loads d (package.resolve d.cwd)
    cases hl with
    | undecodable hc hb =>
      rw [result_scanned_of_load_error h (.undecodable hc hb)] at hv
      cases hv
      exact .undecodable h hc hb
    | malformed hc hb ht =>
      rw [result_scanned_of_load_error h (.malformed hc hb ht)] at hv
      cases hv
    | refused hc he hs =>
      rw [result_scanned_of_load_error h (.refused hc he hs)] at hv
      cases hv
    | unshowable hc he hs =>
      rw [result_scanned_of_load_error h (.unshowable hc he hs)] at hv
      cases hv
      exact .digits h hc he hs
    | settings hc he => exact .of_scan h (.settings hc he) hv
    | defaults hb => exact .of_scan h (.defaults hb) hv

/-! ## Parsing -/

theorem verdict_eq_crashed_iff [Grammar.Stack] {q : ParseRequest} {c : Crash} :
    q.verdict = .crashed c ↔ Breaks d (.parse q) c := by
  have hparsed : q.parsed? = none ↔ q.maxDepth = none ∧ '(' ∈ q.expression := by
    simp [ParseRequest.parsed?]
  unfold ParseRequest.verdict
  constructor
  · intro hv
    split at hv
    · cases hv
      obtain ⟨hd, hp⟩ := hparsed.1 ‹_›
      exact .noDepth hd hp
    · cases hv
    · cases hv
  · rintro ⟨⟩
    rw [hparsed.2 ⟨‹_›, ‹_›⟩]

/-! ## Runs -/

theorem outcome_eq_crashed_iff [Grammar.Stack] {r : Request} {c : Crash} :
    (r.outcome d).2 = .crashed c ↔ ∃ cmd, r.command = some cmd ∧ Breaks d cmd c := by
  rcases r with ⟨logging, _ | q | q | _⟩
  · simp [Request.outcome]
  · simp only [Request.outcome, Option.some.injEq, exists_eq_left']
    exact ⟨Breaks.of_scanVerdict, Breaks.scanVerdict_eq⟩
  · simp only [Request.outcome, Option.some.injEq, exists_eq_left']
    exact verdict_eq_crashed_iff
  · simp only [Request.outcome, Option.some.injEq, exists_eq_left', reduceCtorEq, false_iff]
    rintro ⟨⟩

/-- The command line asks for a text and for nothing else. -/
def Exits (s : Stop) : Prop := s = .version ∨ ∃ p, s = .help p

theorem not_exits_fault (p : CommandLine.Page) (f : CommandLine.Fault) : ¬ Exits (.fault p f) := by
  rintro (h | ⟨p, h⟩)
  · cases h
  · cases h

theorem ending_stopped_eq_shown_iff {s : Stop} : (stopped s).ending = .shown ↔ Exits s := by
  cases s with
  | help p => exact iff_of_true rfl (.inr ⟨p, rfl⟩)
  | version => exact iff_of_true rfl (.inl rfl)
  | fault p f => exact iff_of_false nofun (not_exits_fault p f)

theorem ending_stopped_of_not_exits {s : Stop} (h : ¬ Exits s) : (stopped s).ending = .code failureCode := by
  cases s with
  | help p => exact absurd (.inr ⟨p, rfl⟩) h
  | version => exact absurd (.inl rfl) h
  | fault p f => rfl

theorem ending_stopped_ne_crash (s : Stop) (c : Crash) : (stopped s).ending ≠ .crash c := by
  cases s <;> exact nofun

theorem Verdict.ending_report_eq_crash_iff {log : Text} {v : Verdict} {c : Crash} :
    (v.report log).ending = .crash c ↔ v = .crashed c := by
  cases v <;> simp [Verdict.report]

theorem Verdict.ending_report_of_ne_crashed {log : Text} {v : Verdict} (h : ∀ c, v ≠ .crashed c) :
    ∃ n ≤ 2, (v.report log).ending = .code n := by
  cases v with
  | printed t => exact ⟨successCode, by decide, rfl⟩
  | failed m => exact ⟨failureCode, by decide, rfl⟩
  | notFound => exact ⟨notFoundCode, by decide, rfl⟩
  | crashed c => exact absurd rfl (h c)

/-- A request makes the tool crash exactly if it breaks. -/
theorem ending_report_eq_crash_iff [Grammar.Stack] {r : Request} {environment : Text} {c : Crash} :
    (r.report d environment).ending = .crash c ↔ ∃ cmd, r.command = some cmd ∧ Breaks d cmd c :=
  Verdict.ending_report_eq_crash_iff.trans outcome_eq_crashed_iff

theorem ending_report_of_not_breaks [Grammar.Stack] {r : Request} (environment : Text)
    (h : ∀ cmd c, r.command = some cmd → ¬ Breaks d cmd c) : ∃ n ≤ 2, (r.report d environment).ending = .code n := by
  refine Verdict.ending_report_of_ne_crashed fun c hv => ?_
  obtain ⟨cmd, hcmd, hb⟩ := outcome_eq_crashed_iff.1 hv
  exact h cmd c hcmd hb

theorem Verdict.ending_report_ne_shown (log : Text) (v : Verdict) : (v.report log).ending ≠ .shown := by
  cases v <;> simp [Verdict.report]

/-- A scan whose settings are refused says so. -/
theorem report_of_refused [Grammar.Stack] {r : Request} {package : Path} {e : Config.Error} (environment : Text)
    (hr : r.command = some (.scan q)) (h : q.package = some package)
    (hc : Config.Loads d (package.resolve d.cwd) (.error (.refused e))) :
    ∃ log, r.report d environment = ⟨.code failureCode, [], log ++ Terminal.error e.message⟩ := by
  have ho : (r.outcome d).2 = .failed e.message := by
    rw [Request.outcome, hr]
    show scanVerdict (q.scanned d).result = _
    rw [result_scanned_of_load_error h hc, scanVerdict]
  exact ⟨_, by rw [Request.report, ho]; rfl⟩

/-- **How a run ends.**  It ends with the text that it was asked for if that is all it was asked for; it crashes exactly
on the disks and for the commands that `Breaks` names; else it ends with code 0, 1 or 2.  Settings that are refused end
it with code 1 and a message. -/
theorem run_ending [Grammar.Stack] (d : Disk) (environment : Text) (words : List Text) :
    ((run d environment words).ending = .shown ↔ ∃ s, Request.ofWords words = .error s ∧ Exits s) ∧
    (∀ c, (run d environment words).ending = .crash c ↔
      ∃ r cmd, Request.ofWords words = .ok r ∧ r.command = some cmd ∧ Breaks d cmd c) ∧
    ((∀ s, Request.ofWords words = .error s → ¬ Exits s) →
      (∀ r cmd c, Request.ofWords words = .ok r → r.command = some cmd → ¬ Breaks d cmd c) →
      ∃ n ≤ 2, (run d environment words).ending = .code n) ∧
    ∀ r q package e, Request.ofWords words = .ok r → r.command = some (.scan q) → q.package = some package →
      Config.Loads d (package.resolve d.cwd) (.error (.refused e)) →
      ∃ log, run d environment words = ⟨.code 1, [], log ++ Terminal.error e.message⟩ := by
  unfold run
  cases Request.ofWords words with
  | error s =>
    refine ⟨?_, fun c => ?_, fun h _ => ?_, fun r q package e h => by cases h⟩
    · simp only [ending_stopped_eq_shown_iff, Except.error.injEq, exists_eq_left']
    · exact iff_of_false (ending_stopped_ne_crash s c) fun ⟨r, cmd, h, _⟩ => by cases h
    · exact ⟨failureCode, by decide, ending_stopped_of_not_exits (h s rfl)⟩
  | ok r =>
    refine ⟨?_, fun c => ?_, fun _ h => ?_, fun r' q package e h => ?_⟩
    · exact iff_of_false (Verdict.ending_report_ne_shown _ _) fun ⟨s, h, _⟩ => by cases h
    · simp only [ending_report_eq_crash_iff, Except.ok.injEq, exists_and_left, exists_eq_left']
    · exact ending_report_of_not_breaks environment fun cmd c => h r cmd c rfl
    · cases h
      exact report_of_refused environment

theorem run_ending_malformed :
    letI := Grammar.Stack.least
    let d : Disk := ⟨.folder [("w".toList, .folder [("a.c".toList, .file []),
      ("pyproject.toml".toList, .file (Utf8.encode "[tool.tplkit]\nstrategy = file\n".toList))])], ["w".toList]⟩
    ∃ log, run d [] ["-v".toList, "scan".toList, "-p".toList, "/w".toList, "a.c".toList] =
      ⟨.code 1, [], log ++ "error: /w/pyproject.toml: invalid TOML\n".toList⟩ := by
  let _ := Grammar.Stack.least
  intro d
  let q : ScanRequest := ⟨Path.ofText "a.c".toList, some (Path.ofText "/w".toList), some here, none⟩
  let b := Utf8.encode "[tool.tplkit]\nstrategy = file\n".toList
  have hw : Request.ofWords ["-v".toList, "scan".toList, "-p".toList, "/w".toList, "a.c".toList] =
      .ok ⟨⟨true, false, false⟩, some (.scan q)⟩ := by
    decide +kernel
  have hb : Utf8.decode b = .ok "[tool.tplkit]\nstrategy = file\n".toList := by decide +kernel
  have ht : Toml.read? (Text.unifyEnds "[tool.tplkit]\nstrategy = file\n".toList) = none :=
    Option.isNone_iff_eq_none.1 (by decide +kernel)
  have hm : Terminal.error (Config.Error.message
      ⟨((Path.ofText "/w".toList).child Config.projectFile).text, .invalidToml⟩) =
      "error: /w/pyproject.toml: invalid TOML\n".toList := by
    decide +kernel
  obtain ⟨log, h⟩ := (run_ending d [] _).2.2.2 _ q (Path.ofText "/w".toList) _ hw rfl rfl
    (.malformed (.project (b := b) (by decide +kernel) (by decide +kernel)) hb ht)
  exact ⟨log, hm ▸ h⟩

/-- A settings file that is no text makes the tool crash. -/
theorem run_undecodable :
    letI := Grammar.Stack.least
    let d : Disk := ⟨.folder [("w".toList, .folder [("a.c".toList, .file (Utf8.encode "int x;\n".toList)),
      ("LICENSE".toList, .file (Utf8.encode "x\n".toList)), ("tplkit.toml".toList, .file [0xFF])])], ["w".toList]⟩
    (run d [] ["scan".toList, "a.c".toList]).ending = .crash (.undecodable ⟨0, 0, [0xFF], .badStart⟩) := by
  let _ := Grammar.Stack.least
  intro d
  decide +kernel

end Licensing.Tool
