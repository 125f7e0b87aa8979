import Licensing.Proofs.Document.Records
import Licensing.Proofs.Json.Line
import Licensing.Proofs.Tool.Endings
/-!
# What a run prints

The code that a run ends with and what it prints belong together (`run_output`): nothing is printed unless the code is
0, a parse prints its expression and a scan its listing, and code 2 tells that a scan found nothing.
-/
namespace Licensing
namespace Tool

open Document (Compound Listing)

variable {d : Disk}

/-! ## Verdicts -/

theorem Verdict.exists_printed {log : Text} {v : Verdict} (h : (v.report log).ending = .code 0) :
    ∃ t, v = .printed t := by
  cases v with
  | printed t => exact ⟨t, rfl⟩
  | failed m => cases h
  | notFound => cases h
  | crashed c => cases h

theorem Verdict.eq_notFound {log : Text} {v : Verdict} (h : (v.report log).ending = .code 2) : v = .notFound := by
  cases v with
  | printed t => cases h
  | failed m => cases h
  | notFound => rfl
  | crashed c => cases h

/-- Only what succeeds is printed. -/
theorem Verdict.stdout_of_ne_zero {log : Text} {v : Verdict} {n : Nat} (h : (v.report log).ending = .code n)
    (hn : n ≠ 0) : (v.report log).stdout = [] := by
  cases v with
  | printed t =>
    cases h
    exact absurd rfl hn
  | failed m => rfl
  | notFound => rfl
  | crashed c => rfl

/-- **A run with a code** is that of a request, or it was stopped by its command line and ends with code 1. -/
theorem run_of_code [Grammar.Stack] {environment : Text} {words : List Text} {n : Nat}
    (h : (run d environment words).ending = .code n) :
    (∃ r log, Request.ofWords words = .ok r ∧ run d environment words = (r.outcome d).2.report log) ∨
      (∃ s, Request.ofWords words = .error s) ∧ n = 1 ∧ (run d environment words).stdout = [] := by
  unfold run at h ⊢
  cases hw : Request.ofWords words with
  | ok r => exact .inl ⟨r, _, rfl, rfl⟩
  | error s =>
    rw [hw] at h
    refine .inr ⟨⟨s, rfl⟩, ?_⟩
    cases s with
    | help p => cases h
    | version => cases h
    | fault p f =>
      cases h
      exact ⟨rfl, rfl⟩

/-! ## Output -/

/-- The output is one line of JSON, which is read as the value. -/
def Prints (out : Text) (v : Value) : Prop := ∃ t, out = t ++ ['\n'] ∧ Json.Tells t v

theorem prints_textOf {v : Value} (hv : Json.Lossless v) : Prints (Document.textOf none v ++ ['\n']) v :=
  ⟨_, rfl, Json.tells_compact hv⟩

/-- The output of a parse: the expression in canonical text on a line of its own, or one line of JSON that is accepted
and decoded as the expression. -/
def ParseRequest.Prints (q : ParseRequest) (e : Expr) (out : Text) : Prop :=
  if q.json then ∃ v c, Tool.Prints out v ∧ Compound.ofValue v = .ok c ∧ c.toExpr = .ok e else out = e.render ++ ['\n']

/-- The output of a scan: one line of JSON that is accepted as the listing. -/
def PrintsListing (l : Listing) (out : Text) : Prop := ∃ v, Prints out v ∧ Listing.ofValue v = .ok l

/-! ## Parsing -/

theorem ParseRequest.prints_shown {q : ParseRequest} {e : Expr} (he : e.Registered) : q.Prints e (q.shown e) := by
  unfold ParseRequest.Prints ParseRequest.shown
  split
  · exact ⟨_, _, prints_textOf (Compound.lossless_toValue _), Compound.ofValue_toValue _, Compound.toExpr_ofExpr [] he⟩
  · rfl

/-- What a parse comes to, unless it crashes. -/
theorem ParseRequest.verdict_eq [Grammar.Stack] {q : ParseRequest} (h : ∀ c, q.verdict ≠ .crashed c) :
    q.verdict = match Grammar.parse q.expression (q.maxDepth.map Int.ofNat) with
      | .ok e => .printed (q.shown e)
      | .error e => .failed (parseMessage e) := by
  unfold ParseRequest.verdict at h ⊢
  cases hp : q.parsed? with
  | none =>
    rw [hp] at h
    exact absurd rfl (h .noDepth)
  | some r =>
    unfold ParseRequest.parsed? at hp
    split at hp
    · cases hp
    · rw [Option.some.inj hp]
      cases r <;> rfl

theorem registered_of_parse [Grammar.Stack] {t : Text} {maxDepth : Option Int} {e : Expr}
    (h : Grammar.parse t maxDepth = .ok e) : e.Registered :=
  (Grammar.derives_of_parseFree (Grammar.parseFree_of_parse h)).1.wellFormed.registered

/-- **A parse succeeds exactly if its expression is read**, and then the expression is printed. -/
theorem ParseRequest.report_eq_zero_iff [Grammar.Stack] {q : ParseRequest} {log : Text} {n : Nat}
    (h : (q.verdict.report log).ending = .code n) :
    n = 0 ↔ ∃ e, Grammar.parse q.expression (q.maxDepth.map Int.ofNat) = .ok e ∧
      q.Prints e (q.verdict.report log).stdout := by
  have hv := ParseRequest.verdict_eq (q := q) fun c hc => by
    rw [hc] at h
    cases h
  rw [hv] at h ⊢
  cases hp : Grammar.parse q.expression (q.maxDepth.map Int.ofNat) with
  | error e =>
    rw [hp] at h
    cases h
    simp [failureCode]
  | ok e =>
    rw [hp] at h
    cases h
    exact iff_of_true rfl ⟨e, rfl, ParseRequest.prints_shown (registered_of_parse hp)⟩

theorem ParseRequest.verdict_ne_notFound [Grammar.Stack] (q : ParseRequest) : q.verdict ≠ .notFound := by
  unfold ParseRequest.verdict
  split <;> exact nofun

/-! ## Scanning -/

/-- What a scan is asked for: its files and directories seen from the working directory, and the settings of its
package, in which the strategy of the command line takes the place of the configured one. -/
inductive ScanRequest.Asks (q : ScanRequest) (d : Disk) : ScanParams → Config → Prop
  | mk {package root : Path} {c : Config} (hp : q.package = some package) (hr : q.root = some root)
      (hc : (Config.load d (package.resolve d.cwd)).result = .ok c) :
      Asks q d { q.params d package root with strategy := none } { c with strategy := q.strategy.getD c.strategy }

theorem ScanRequest.Asks.result_scanned [Grammar.Stack] {q : ScanRequest} {p : ScanParams} {c : Config}
    (h : q.Asks d p c) : (q.scanned d).result = (Scan.scan d p c).result.mapError .scan := by
  obtain ⟨hp, hr, hc⟩ := h
  rw [result_scanned_of_load_ok hp (Config.result_load_eq_iff.1 hc), hr]
  exact congrArg (fun r => r.result.mapError ScanFault.scan) (Scan.scan_override d _ _).symm

/-- A scan is carried out as it is asked for, or its settings or a path are missing. -/
theorem ScanRequest.asks_or_fails [Grammar.Stack] (q : ScanRequest) (d : Disk) :
    (∃ p c, q.Asks d p c) ∨ (∃ e, (q.scanned d).result = .error (.load e)) ∨ (q.scanned d).result = .error .noPath := by
  cases hp : q.package with
  | none => exact .inr (.inr (result_scanned_of_no_package hp))
  | some package =>
    cases hc : (Config.load d (package.resolve d.cwd)).result with
    | error e => exact .inr (.inl ⟨e, result_scanned_of_load_error hp (Config.result_load_eq_iff.1 hc)⟩)
    | ok c =>
      cases hr : q.root with
      | none =>
        refine .inr (.inr ?_)
        rw [result_scanned_of_load_ok hp (Config.result_load_eq_iff.1 hc), hr]
      | some root => exact .inl ⟨_, _, .mk hp hr hc⟩

/-- **A scan comes to a listing or fails as the scan that it is asked for does.** -/
theorem ScanRequest.result_eq_iff [Grammar.Stack] {q : ScanRequest} {r : Except Scan.Failure Listing} :
    (q.scanned d).result = r.mapError .scan ↔ ∃ p c, q.Asks d p c ∧ (Scan.scan d p c).result = r := by
  constructor
  · intro h
    rcases q.asks_or_fails d with ⟨p, c, ha⟩ | ⟨e, he⟩ | he
    · refine ⟨p, c, ha, ?_⟩
      rw [ha.result_scanned] at h
      generalize (Scan.scan d p c).result = r' at h ⊢
      cases r <;> cases r' <;> cases h <;> rfl
    · cases r <;> cases he.symm.trans h
    · cases r <;> cases he.symm.trans h
  · rintro ⟨p, c, ha, rfl⟩
    exact ha.result_scanned

theorem scanVerdict_eq_printed_iff {r : Except ScanFault Listing} {t : Text} :
    scanVerdict r = .printed t ↔ ∃ l, r = .ok l ∧ Document.textOf none l.toValue ++ ['\n'] = t := by
  unfold scanVerdict
  split
  -- the failure of a scan, of which only one kind tells that nothing was found
  case h_5 => split_ifs <;> simp
  all_goals simp

theorem scanVerdict_eq_notFound_iff {r : Except ScanFault Listing} :
    scanVerdict r = .notFound ↔ ∃ e, r = .error (.scan (.scan e)) ∧ e.kind = .licenseOrCopyrightNotFound := by
  unfold scanVerdict
  split
  case h_5 => split_ifs with hkind <;> simp [hkind]
  all_goals simp

theorem printsListing [Grammar.Stack] {p : ScanParams} {c : Config} {l : Listing}
    (h : (Scan.scan d p c).result = .ok l) : PrintsListing l (Document.textOf none l.toValue ++ ['\n']) := by
  have hmetadata : ∀ fs ∈ l.metadata, Json.Lossless (.record fs) := by
    rw [(Scan.result_eq_iff_decides.1 h).metadata_eq_none]
    exact nofun
  exact ⟨_, prints_textOf (l.lossless_toValue hmetadata), l.ofValue_toValue⟩

/-- **A scan succeeds exactly if what it is asked for comes to a listing**, and then the listing is printed. -/
theorem ScanRequest.report_eq_zero_iff [Grammar.Stack] {q : ScanRequest} {log : Text} {n : Nat}
    (h : ((scanVerdict (q.scanned d).result).report log).ending = .code n) :
    n = 0 ↔ ∃ p c l, q.Asks d p c ∧ (Scan.scan d p c).result = .ok l ∧
      PrintsListing l ((scanVerdict (q.scanned d).result).report log).stdout := by
  constructor
  · rintro rfl
    obtain ⟨t, hv⟩ := Verdict.exists_printed h
    obtain ⟨l, hl, rfl⟩ := scanVerdict_eq_printed_iff.1 hv
    obtain ⟨p, c, ha, hscan⟩ := ScanRequest.result_eq_iff (r := .ok l) |>.1 hl
    rw [hv]
    exact ⟨p, c, l, ha, hscan, printsListing hscan⟩
  · rintro ⟨p, c, l, ha, hscan, -⟩
    rw [ScanRequest.result_eq_iff (r := .ok l) |>.2 ⟨p, c, ha, hscan⟩] at h
    cases h
    rfl

/-! ## Finding nothing -/

/-- The settings of the package are valid, the file and the package are there, no regular file of the package is named
like a license, and the strategy looks for no tag or the first lines of the file have none that is not empty. -/
structure ScanRequest.FindsNothing (q : ScanRequest) (d : Disk) (package : Path) (c : Config) : Prop where
  asked : q.package = some package
  loaded : (Config.load d (package.resolve d.cwd)).result = .ok c
  file : d.isFile (q.file.resolve d.cwd) = true
  folder : d.isFolder (package.resolve d.cwd) = true
  names : ∀ n ∈ d.fileNames (package.resolve d.cwd), Scan.isLicenseName c.licenseStems n = false
  untagged : q.strategy.getD c.strategy = .file ∨ ∃ content, d.read (q.file.resolve d.cwd) = .ok content ∧
    ∀ line ∈ Header.window c.headerLines content, ∀ v, Header.lineTag? line = some v → v = []

/-- Where there is nothing to be found a scan says so, unless it breaks. -/
theorem ScanRequest.FindsNothing.scanVerdict_eq [Grammar.Stack] {q : ScanRequest} {package : Path} {c : Config}
    (h : q.FindsNothing d package c) (hb : ∀ x, ¬ Breaks d (.scan q) x) :
    scanVerdict (q.scanned d).result = .notFound := by
  have hc := Config.result_load_eq_iff.1 h.loaded
  cases hr : q.root with
  | none => exact absurd (.noRoot h.asked hc hr) (hb .noPath)
  | some root =>
    have hg : Scan.Grounded d (q.params d package root) := ⟨h.file, h.folder⟩
    have hu : Scan.Untagged d (q.params d package root) c := by
      rcases h.untagged with hs | ⟨content, hread, ht⟩
      · exact .inl hs
      · by_cases hn : c.headerLines ≤ Scan.maxWindow
        · exact .inr ⟨_, Scan.header_eq_ok_iff.2 ⟨content, hread, hn, rfl⟩, Scan.tag?_eq_none_iff.2 ht⟩
        · -- too many lines to look for a tag in them
          cases hs : Scan.strategy (q.params d package root) c with
          | file => exact .inl hs
          | spdxHeader => exact absurd (.window h.asked hc hr hg (Nat.not_le.1 hn) (.inl hs)) (hb .window)
    obtain ⟨e, hscan, hkind⟩ := Scan.notFound_iff.2 ⟨hg, hu, Scan.evidence_eq_nil_iff.2 h.names⟩
    rw [result_scanned_of_load_ok h.asked hc, hr]
    exact scanVerdict_eq_notFound_iff.2 ⟨e, congrArg (Except.mapError _) hscan, hkind⟩

/-- **A scan ends with code 2 exactly if it finds nothing.** -/
theorem ScanRequest.report_eq_two_iff [Grammar.Stack] {q : ScanRequest} {log : Text} {n : Nat}
    (h : ((scanVerdict (q.scanned d).result).report log).ending = .code n) :
    n = 2 ↔ ∃ package c, q.FindsNothing d package c := by
  constructor
  · rintro rfl
    obtain ⟨e, he, hkind⟩ := scanVerdict_eq_notFound_iff.1 (Verdict.eq_notFound h)
    obtain ⟨p, c, ⟨hp, hr, hc⟩, hscan⟩ := ScanRequest.result_eq_iff (r := .error (.scan e)) |>.1 he
    obtain ⟨hg, hu, hev⟩ := Scan.notFound_iff.1 ⟨e, hscan, hkind⟩
    refine ⟨_, _, hp, hc, hg.file, hg.package, Scan.evidence_eq_nil_iff.1 hev, hu.imp_right ?_⟩
    rintro ⟨ls, hls, ht⟩
    obtain ⟨content, hread, -, rfl⟩ := Scan.header_eq_ok_iff.1 hls
    exact ⟨content, hread, Scan.tag?_eq_none_iff.1 ht⟩
  · rintro ⟨package, c, hq⟩
    have hb : ∀ x, ¬ Breaks d (.scan q) x := fun x hx => by
      rw [hx.scanVerdict_eq] at h
      cases h
    rw [hq.scanVerdict_eq hb] at h
    cases h
    rfl

/-! ## Runs -/

/-- Only a scan finds nothing. -/
theorem exists_scan_of_notFound [Grammar.Stack] {r : Request} {log : Text}
    (h : ((r.outcome d).2.report log).ending = .code 2) : ∃ q, r.command = some (.scan q) := by
  have hv := Verdict.eq_notFound h
  rcases r with ⟨logging, _ | q | q | _⟩
  · cases hv
  · exact ⟨q, rfl⟩
  · exact absurd hv q.verdict_ne_notFound
  · cases hv

/-- **The output of a run is tied to its code.**  A run with a code other than 0 prints nothing.  A parse ends with code
0 exactly if its expression is read, and prints it; a scan ends with code 0 exactly if it comes to a listing under the
settings of its package, and prints it.  Code 2 tells of a scan that finds nothing, and of nothing else. -/
theorem run_output [Grammar.Stack] {environment : Text} {words : List Text} {n : Nat}
    (h : (run d environment words).ending = .code n) :
    (n ≠ 0 → (run d environment words).stdout = []) ∧
    (∀ r q, Request.ofWords words = .ok r → r.command = some (.parse q) →
      (n = 0 ↔ ∃ e, Grammar.parse q.expression (q.maxDepth.map Int.ofNat) = .ok e ∧
        q.Prints e (run d environment words).stdout)) ∧
    (∀ r q, Request.ofWords words = .ok r → r.command = some (.scan q) →
      (n = 0 ↔ ∃ p c l, q.Asks d p c ∧ (Scan.scan d p c).result = .ok l ∧
        PrintsListing l (run d environment words).stdout)) ∧
    (n = 2 ↔ ∃ r q package c, Request.ofWords words = .ok r ∧ r.command = some (.scan q) ∧
      q.FindsNothing d package c) := by
  rcases run_of_code h with ⟨r, log, hw, hrun⟩ | ⟨⟨s, hw⟩, rfl, hout⟩
  · rw [hrun] at h ⊢
    refine ⟨?_, ?_, ?_, ?_⟩
    · exact Verdict.stdout_of_ne_zero h
    · rintro r' q hw' hq
      cases hw.symm.trans hw'
      simp only [Request.outcome, hq] at h ⊢
      exact ParseRequest.report_eq_zero_iff h
    · rintro r' q hw' hq
      cases hw.symm.trans hw'
      simp only [Request.outcome, hq] at h ⊢
      exact ScanRequest.report_eq_zero_iff h
    · constructor
      · rintro rfl
        obtain ⟨q, hq⟩ := exists_scan_of_notFound h
        have hs := h
        simp only [Request.outcome, hq] at hs
        obtain ⟨package, c, hn⟩ := (ScanRequest.report_eq_two_iff hs).1 rfl
        exact ⟨r, q, package, c, hw, hq, hn⟩
      · rintro ⟨r', q, package, c, hw', hq, hn⟩
        cases hw.symm.trans hw'
        simp only [Request.outcome, hq] at h
        exact (ScanRequest.report_eq_two_iff h).2 ⟨package, c, hn⟩
  · simp [hw, hout]

/-- The file has a tag, for which the settings ask, but not the command line. -/
theorem run_output_overridden :
    letI := Grammar.Stack.least
    let d : Disk := ⟨.folder [("w".toList, .folder [
      ("a.c".toList, .file (Utf8.encode "// SPDX-License-Identifier: MIT\n".toList)),
      ("tplkit.toml".toList, .file (Utf8.encode "strategy = \"spdx-header\"\n".toList))])], ["w".toList]⟩
    let words := ["scan".toList, "a.c".toList]
    let more := ["--strategy".toList, "file".toList]
    let q : ScanRequest := ⟨Path.ofText "a.c".toList, some here, some here, none⟩
    (∃ p c l, q.Asks d p c ∧ (Scan.scan d p c).result = .ok l ∧ PrintsListing l (run d [] words).stdout) ∧
      (∃ package c, { q with strategy := some .file }.FindsNothing d package c) ∧
      (run d [] (words ++ more)).stdout = [] := by
  let _ := Grammar.Stack.least
  intro d words more q
  have hw : Request.ofWords words = .ok ⟨⟨false, false, false⟩, some (.scan q)⟩ := by decide +kernel
  have hm : Request.ofWords (words ++ more) =
      .ok ⟨⟨false, false, false⟩, some (.scan { q with strategy := some .file })⟩ := by
    decide +kernel
  have hzero : (run d [] words).ending = .code 0 := by decide +kernel
  have htwo : (run d [] (words ++ more)).ending = .code 2 := by decide +kernel
  obtain ⟨r, q', package, c, hr, hq, hn⟩ := (run_output htwo).2.2.2.1 rfl
  cases hm.symm.trans hr
  cases hq
  exact ⟨((run_output hzero).2.2.1 _ q hw rfl).1 rfl, ⟨package, c, hn⟩, (run_output htwo).1 nofun⟩

end Tool
end Licensing
