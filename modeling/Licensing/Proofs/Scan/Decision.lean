import Licensing.Proofs.Document.Decoding
import Licensing.Proofs.Expr.Rendering
import Licensing.Proofs.Scan.Evidence
/-!
# What a scan decides

The result of a scan, read off the disk in the order in which the scan looks: the file, the package, the tag in the
header, the evidence.
-/
namespace Licensing
namespace Scan

open Document (Compound GroupLicense Include Listing SpdxLicense)

variable {d : Disk} {p : ScanParams} {c : Config}

/-- The strategy that the parameters ask for, and else the configured one. -/
def strategy (p : ScanParams) (c : Config) : Strategy := p.strategy.getD c.strategy

/-- The file and the package are there. -/
structure Grounded (d : Disk) (p : ScanParams) : Prop where
  file : d.isFile p.file = true
  package : d.isFolder p.packageRoot = true

/-- The strategy looks for a tag, and `v` is the tag among the first lines `ls` of the file. -/
structure Tagged (d : Disk) (p : ScanParams) (c : Config) (ls : List Text) (v : Text) : Prop where
  asked : strategy p c = .spdxHeader
  header : header d p.file c.headerLines = .ok ls
  tag : Header.tag? ls = some v

/-- The strategy does not look for a tag, or there is none. -/
def Untagged (d : Disk) (p : ScanParams) (c : Config) : Prop :=
  strategy p c = .file ∨ ∃ ls, header d p.file c.headerLines = .ok ls ∧ Header.tag? ls = none

/-- What a scan has to answer. -/
inductive Decides [Grammar.Stack] (d : Disk) (p : ScanParams) (c : Config) : Except Failure Listing → Prop
  | noFile (h : d.isFile p.file = false) : Decides d p c (.error (.scan (badPath p.file "not a regular file")))
  | noPackage (hf : d.isFile p.file = true) (hp : d.isFolder p.packageRoot = false) :
      Decides d p c (.error (.scan (badPath p.packageRoot "package root is not a directory")))
  | refused {ls : List Text} {v : Text} {e : ParseError} (h : Grounded d p) (ht : Tagged d p c ls v)
      (hv : Grammar.parse v (some c.maxDepth) = .error e) : Decides d p c (.error (.parse e))
  | spdx {ls : List Text} {v : Text} {e : Expr} (h : Grounded d p) (ht : Tagged d p c ls v)
      (hv : Grammar.parse v (some c.maxDepth) = .ok e) :
      Decides d p c (.ok (listing p (.spdx ⟨v, .ofExpr [] e, evidence d p c⟩) (Header.statements ls)))
  | arbitrary {ls : List Text} (h : Grounded d p) (hu : Untagged d p c) (he : evidence d p c ≠ [])
      (hls : header d p.file c.headerLines = .ok ls) :
      Decides d p c (.ok (listing p (.arbitrary (evidence d p c)) (Header.statements ls)))
  | nothing (h : Grounded d p) (hu : Untagged d p c) (he : evidence d p c = []) :
      Decides d p c (.error (.scan ⟨.licenseOrCopyrightNotFound, p.packageRoot.text, []⟩))
  /-- The header cannot be read, for the tag or for the copyright statements. -/
  | uncounted (h : Grounded d p) (hn : maxWindow < c.headerLines)
      (hr : strategy p c = .spdxHeader ∨ evidence d p c ≠ []) : Decides d p c (.error .window)

/-! ## The steps of a scan -/

theorem Grounded.header_eq (h : Grounded d p) : ∃ content, d.read p.file = .ok content ∧ ∀ n,
    header d p.file n = if maxWindow < n then .error .window else .ok (Header.window n content) := by
  obtain ⟨content, hc⟩ := Disk.isFile_eq_true_iff.1 h.file
  exact ⟨content, hc, fun n => by rw [header, hc]⟩

theorem Grounded.header_eq_error (h : Grounded d p) (hn : maxWindow < c.headerLines) :
    header d p.file c.headerLines = .error .window := by
  obtain ⟨content, -, hh⟩ := h.header_eq
  rw [hh, if_pos hn]

theorem Grounded.exists_header (h : Grounded d p) (hn : c.headerLines ≤ maxWindow) :
    ∃ ls, header d p.file c.headerLines = .ok ls := by
  obtain ⟨content, -, hh⟩ := h.header_eq
  exact ⟨_, by rw [hh, if_neg (Nat.not_lt.2 hn)]⟩

theorem arbitrary?_of_ne_nil {is : List Include} (h : is ≠ []) : arbitrary? is = some (.arbitrary is) := by
  rw [arbitrary?, List.isEmpty_eq_false_iff.2 h]
  rfl

section

variable [Grammar.Stack]

/-- Where the file and the package are there, all depends on the license and on the copyright statements. -/
theorem Grounded.result_scan (h : Grounded d p) :
    (scan d p c).result =
      match (licenseFor d p c (evidence d p c) (strategy p c)).result with
      | .error e => .error e
      | .ok none => .error (.scan ⟨.licenseOrCopyrightNotFound, p.packageRoot.text, []⟩)
      | .ok (some l) => (statements d p.file c.headerLines).map (listing p l) := by
  have hfiles : ((findLicenseFiles d p.packageRoot c.licenseStems).mapError Failure.scan).result =
      .ok ((licenseNames d p.packageRoot c.licenseStems).map p.packageRoot.child) := by
    rw [findLicenseFiles, if_pos h.package]
    rfl
  have hev : (((licenseNames d p.packageRoot c.licenseStems).map p.packageRoot.child).map
      fun f => Include.file (f.stripRoot p.root)) = evidence d p c := List.map_map
  simp only [scan, h.file, if_true, Run.result_bind_of_ok hfiles, hev]
  rw [Run.result_bind, strategy]
  cases (licenseFor d p c (evidence d p c) (p.strategy.getD c.strategy)).result with
  | error e => rfl
  | ok o =>
    cases o with
    | none => rfl
    | some l =>
      show (Run.ofExcept (statements d p.file c.headerLines) >>= _).result = _
      rw [Run.result_bind, Run.result_ofExcept]
      cases statements d p.file c.headerLines <;> rfl

theorem result_taggedLicense (c : Config) (is : List Include) (v : Text) :
    (taggedLicense c is v).result =
      ((Grammar.parse v (some c.maxDepth)).mapError Failure.parse).map fun e => .spdx ⟨v, .ofExpr [] e, is⟩ := by
  unfold taggedLicense SpdxLicense.ofText
  cases Grammar.parse v (some c.maxDepth) <;> rfl

theorem result_licenseFor_spdxHeader (is : List Include) :
    (licenseFor d p c is .spdxHeader).result =
      tag? d p.file c.headerLines >>= fun o =>
        match o with
        | none => .ok (arbitrary? is)
        | some v => (taggedLicense c is v).result.map some := by
  rw [licenseFor, Run.result_bind, Run.result_ofExcept]
  congr
  funext o
  cases o with
  | none => rfl
  | some v =>
    show (taggedLicense c is v >>= fun l => pure (some l)).result = (taggedLicense c is v).result.map some
    rw [Run.result_bind]
    cases (taggedLicense c is v).result <;> rfl

theorem Untagged.result_licenseFor {is : List Include} (h : Untagged d p c) :
    (licenseFor d p c is (strategy p c)).result = .ok (arbitrary? is) := by
  rcases h with hs | ⟨ls, hls, ht⟩
  · rw [hs]
    rfl
  · cases strategy p c with
    | file => rfl
    | spdxHeader =>
      rw [result_licenseFor_spdxHeader, tag?, hls, Except.map, ht]
      rfl

theorem Tagged.result_licenseFor {is : List Include} {ls : List Text} {v : Text} (h : Tagged d p c ls v) :
    (licenseFor d p c is (Scan.strategy p c)).result =
      ((Grammar.parse v (some c.maxDepth)).mapError Failure.parse).map fun e =>
        some (.spdx ⟨v, .ofExpr [] e, is⟩) := by
  rw [h.asked, result_licenseFor_spdxHeader, tag?, h.header, Except.map, h.tag]
  show (taggedLicense c is v).result.map some = _
  rw [result_taggedLicense]
  cases Grammar.parse v (some c.maxDepth) <;> rfl

/-! ## The decision -/

theorem Decides.result_eq {r : Except Failure Listing} (h : Decides d p c r) : (scan d p c).result = r := by
  cases h with
  | noFile h =>
    rw [scan, if_neg (Bool.eq_false_iff.1 h)]
    rfl
  | noPackage hf hp =>
    rw [scan, if_pos hf, findLicenseFiles, if_neg (Bool.eq_false_iff.1 hp)]
    rfl
  | refused h ht hv =>
    rw [h.result_scan, ht.result_licenseFor, hv]
    rfl
  | spdx h ht hv =>
    rw [h.result_scan, ht.result_licenseFor, hv, statements, ht.header]
    rfl
  | arbitrary h hu he hls =>
    rw [h.result_scan, hu.result_licenseFor, arbitrary?_of_ne_nil he, statements, hls]
    rfl
  | nothing h hu he =>
    rw [h.result_scan, hu.result_licenseFor, he]
    rfl
  | uncounted h hn hr =>
    rw [h.result_scan, statements, h.header_eq_error hn]
    cases hs : strategy p c with
    | spdxHeader =>
      rw [result_licenseFor_spdxHeader, tag?, h.header_eq_error hn]
      rfl
    | file =>
      have he : evidence d p c ≠ [] := hr.resolve_left fun h => by rw [hs] at h; cases h
      rw [licenseFor, arbitrary?_of_ne_nil he]
      rfl

theorem Grounded.exists_decides (h : Grounded d p) : ∃ r, Decides d p c r := by
  by_cases hn : c.headerLines ≤ maxWindow
  · obtain ⟨ls, hls⟩ := h.exists_header hn
    have untagged : Untagged d p c → ∃ r, Decides d p c r := fun hu => by
      by_cases he : evidence d p c = []
      · exact ⟨_, .nothing h hu he⟩
      · exact ⟨_, .arbitrary h hu he hls⟩
    cases hs : strategy p c with
    | file => exact untagged (.inl hs)
    | spdxHeader =>
      cases ht : Header.tag? ls with
      | none => exact untagged (.inr ⟨ls, hls, ht⟩)
      | some v =>
        cases hv : Grammar.parse v (some c.maxDepth) with
        | error e => exact ⟨_, .refused h ⟨hs, hls, ht⟩ hv⟩
        | ok e => exact ⟨_, .spdx h ⟨hs, hls, ht⟩ hv⟩
  · have hn := Nat.not_le.1 hn
    cases hs : strategy p c with
    | spdxHeader => exact ⟨_, .uncounted h hn (.inl hs)⟩
    | file =>
      by_cases he : evidence d p c = []
      · exact ⟨_, .nothing h (.inl hs) he⟩
      · exact ⟨_, .uncounted h hn (.inr he)⟩

theorem exists_decides (d : Disk) (p : ScanParams) (c : Config) : ∃ r, Decides d p c r := by
  cases hf : d.isFile p.file with
  | false => exact ⟨_, .noFile hf⟩
  | true =>
    cases hp : d.isFolder p.packageRoot with
    | false => exact ⟨_, .noPackage hf hp⟩
    | true => exact Grounded.exists_decides ⟨hf, hp⟩

theorem result_eq_iff_decides {r : Except Failure Listing} : (scan d p c).result = r ↔ Decides d p c r := by
  constructor
  · rintro rfl
    obtain ⟨r, h⟩ := exists_decides d p c
    exact h.result_eq ▸ h
  · exact fun h => h.result_eq

/-- **A scan finds no license** if no file of the package is named like one and the strategy finds no tag, and only
then. -/
theorem notFound_iff : (∃ e, (scan d p c).result = .error (.scan e) ∧ e.kind = .licenseOrCopyrightNotFound) ↔
    Grounded d p ∧ Untagged d p c ∧ evidence d p c = [] := by
  constructor
  · rintro ⟨e, hresult, hkind⟩
    cases result_eq_iff_decides.1 hresult with
    | noFile h => cases hkind
    | noPackage hf hp => cases hkind
    | nothing h hu he => exact ⟨h, hu, he⟩
  · rintro ⟨h, hu, he⟩
    exact ⟨_, Decides.result_eq (.nothing h hu he), rfl⟩

/-- The strategy of the parameters takes the place of the configured one, and of nothing else. -/
theorem scan_override (d : Disk) (p : ScanParams) (c : Config) :
    scan d { p with strategy := none } { c with strategy := strategy p c } = scan d p c := rfl

/-! ## What the decisions have in common -/

theorem Decides.metadata_eq_none {l : Listing} (h : Decides d p c (.ok l)) : l.metadata = none := by
  cases h <;> rfl

/-- The text of a license is read as the expression that the license holds, and the license has all the evidence. -/
def Faithful (d : Disk) (p : ScanParams) (c : Config) : GroupLicense → Prop
  | .spdx l => ∃ e, Grammar.parse l.rawId none = .ok e ∧ l.expression.toExpr = .ok e ∧ l.includes = evidence d p c
  | .arbitrary is => is = evidence d p c

/-- A listing covers the file of its scan and no other. -/
theorem Decides.licenses_eq {l : Listing} (h : Decides d p c (.ok l)) :
    ∃ g, l.licenses = [⟨[p.file.stripRoot p.root], g⟩] ∧ Faithful d p c g := by
  cases h with
  | spdx h ht hv =>
    have hfree := Grammar.parseFree_of_parse hv
    have hreg := (Grammar.derives_of_parseFree hfree).1.wellFormed.registered
    exact ⟨_, rfl, _, hfree, Compound.toExpr_ofExpr [] hreg, rfl⟩
  | arbitrary h hu he hls => exact ⟨_, rfl, rfl⟩

/-- Without a tag a scan lists the evidence. -/
theorem Grounded.result_scan_of_untagged (h : Grounded d p) (hu : Untagged d p c) :
    (scan d p c).result =
      if evidence d p c = [] then .error (.scan ⟨.licenseOrCopyrightNotFound, p.packageRoot.text, []⟩)
      else (statements d p.file c.headerLines).map (listing p (.arbitrary (evidence d p c))) := by
  rw [h.result_scan, hu.result_licenseFor]
  split_ifs with he
  · rw [he]
    rfl
  · rw [arbitrary?_of_ne_nil he]

/-- Without a tag there is no difference between the strategies. -/
theorem result_eq_of_no_tag (hn : c.headerLines ≤ maxWindow)
    (ht : ∀ ls v, header d p.file c.headerLines = .ok ls → Header.tag? ls ≠ some v) (s t : Strategy) :
    (scan d { p with strategy := some s } c).result = (scan d { p with strategy := some t } c).result := by
  cases hf : d.isFile p.file with
  | false =>
    have (s : Strategy) := Decides.result_eq (p := { p with strategy := some s }) (c := c) (.noFile hf)
    rw [this, this]
  | true =>
    cases hp : d.isFolder p.packageRoot with
    | false =>
      have (s : Strategy) := Decides.result_eq (p := { p with strategy := some s }) (c := c) (.noPackage hf hp)
      rw [this, this]
    | true =>
      obtain ⟨ls, hls⟩ := Grounded.exists_header (p := p) ⟨hf, hp⟩ hn
      have hnone := Option.eq_none_iff_forall_ne_some.2 fun v => ht ls v hls
      have (s : Strategy) := Grounded.result_scan_of_untagged (p := { p with strategy := some s }) ⟨hf, hp⟩
        (.inr ⟨ls, hls, hnone⟩)
      rw [this, this]
      rfl

/-- The licenses that the strategy `file` lists are there on every disk with the same evidence. -/
theorem licenses_eq_of_evidence_eq {d' : Disk} (hs : strategy p c = .file) (hf : d'.isFile p.file = d.isFile p.file)
    (hp : d'.isFolder p.packageRoot = d.isFolder p.packageRoot) (he : evidence d' p c = evidence d p c) :
    (scan d' p c).result.map (·.licenses) = (scan d p c).result.map (·.licenses) := by
  cases hfd : d.isFile p.file with
  | false => rw [Decides.result_eq (.noFile hfd), Decides.result_eq (.noFile (hf.trans hfd))]
  | true =>
    cases hpd : d.isFolder p.packageRoot with
    | false => rw [Decides.result_eq (.noPackage hfd hpd), Decides.result_eq (.noPackage (hf.trans hfd) (hp.trans hpd))]
    | true =>
      have h : Grounded d p := ⟨hfd, hpd⟩
      have h' : Grounded d' p := ⟨hf.trans hfd, hp.trans hpd⟩
      rw [h.result_scan_of_untagged (.inl hs), h'.result_scan_of_untagged (.inl hs), he]
      split_ifs with he
      · rfl
      · obtain ⟨content, -, hh⟩ := h.header_eq
        obtain ⟨content', -, hh'⟩ := h'.header_eq
        rw [statements, statements, hh, hh']
        split_ifs
        · rfl
        · rfl

/-- **The decision of a scan is complete and coherent**: a scan answers what the inductive description says and nothing
else; a listing covers exactly the file of the scan, under a license that is read from its own text and carries the
evidence; the evidence is the matching license files in the order of their names; and the two strategies differ in the
tag alone. -/
theorem scan_complete_and_coherent (d : Disk) (p : ScanParams) (c : Config) :
    (∀ r, (scan d p c).result = r ↔ Decides d p c r) ∧
    (∀ l, (scan d p c).result = .ok l → ∃ g, l.licenses = [⟨[p.file.stripRoot p.root], g⟩] ∧ Faithful d p c g) ∧
    (∃ names : List Text, evidence d p c = names.map (fun n => .file ((p.packageRoot.child n).stripRoot p.root)) ∧
      names.Perm ((d.fileNames p.packageRoot).filter (isLicenseName c.licenseStems)) ∧
      names.Pairwise fun s t => Text.le s t = true) ∧
    (c.headerLines ≤ maxWindow → (∀ ls v, header d p.file c.headerLines = .ok ls → Header.tag? ls ≠ some v) →
      (scan d { p with strategy := some .spdxHeader } c).result = (scan d { p with strategy := some .file } c).result) ∧
    (strategy p c = .file → ∀ d' : Disk, d'.isFile p.file = d.isFile p.file →
      d'.isFolder p.packageRoot = d.isFolder p.packageRoot → evidence d' p c = evidence d p c →
      (scan d' p c).result.map (·.licenses) = (scan d p c).result.map (·.licenses)) := by
  refine ⟨fun r => result_eq_iff_decides, fun l h => (result_eq_iff_decides.1 h).licenses_eq, ?_, ?_, ?_⟩
  · exact ⟨_, rfl, perm_licenseNames _ _ _, pairwise_licenseNames _ _ _⟩
  · exact fun hn ht => result_eq_of_no_tag hn ht _ _
  · exact fun hs d' hf hp he => licenses_eq_of_evidence_eq hs hf hp he

end

theorem scan_complete_and_coherent_on_tag :
    letI := Grammar.Stack.least
    let d : Disk := ⟨.folder [("w".toList, .folder [("a.c".toList, .file (Utf8.encode
      "// SPDX-License-Identifier: (MIT OR gpl-2.0+) AND LicenseRef-x\n// Copyright 2021 N\n".toList)),
      ("Notice.md".toList, .file []), ("COPYING".toList, .file [0xFF]), ("b.c".toList, .file [])])], []⟩
    let w := Path.ofText "/w".toList
    let p : ScanParams := ⟨Path.ofText "/w/a.c".toList, w, w, some .spdxHeader⟩
    let e := Expr.and (.or (.simple (.id "MIT".toList false)) (.simple (.id "GPL-2.0+".toList false)))
      (.simple (.ref "x".toList none))
    let l : SpdxLicense := ⟨"(MIT OR gpl-2.0+) AND LicenseRef-x".toList, .ofExpr [] e,
      [.file "COPYING".toList, .file "Notice.md".toList]⟩
    (scan d p .defaults).result = .ok ⟨⟨"/w".toList, "/w".toList, none⟩, [⟨["a.c".toList], .spdx l⟩],
      [⟨"Copyright 2021 N".toList, some 2021, none⟩], none⟩ := by
  let _ := Grammar.Stack.least
  intro d w p e l
  refine ((scan_complete_and_coherent d p .defaults).1 _).2 ?_
  have hh : header d p.file Config.defaults.headerLines = .ok
      ["// SPDX-License-Identifier: (MIT OR gpl-2.0+) AND LicenseRef-x".toList, "// Copyright 2021 N".toList] := by
    decide +kernel
  have ht : Tagged d p .defaults _ l.rawId := ⟨rfl, hh, by decide +kernel⟩
  have he : Grammar.parse l.rawId (some Config.defaults.maxDepth) = .ok e := by decide +kernel
  exact .spdx ⟨by decide +kernel, by decide +kernel⟩ ht he

/-- A scan has no answer when its header has more lines than can be counted, although every positive number of lines is
accepted as a setting. -/
theorem scan_uncounted :
    letI := Grammar.Stack.least
    let d : Disk := ⟨.folder [("w".toList, .folder [("a.c".toList, .file (Utf8.encode "int x;\n".toList)),
      ("LICENSE".toList, .file (Utf8.encode "MIT\n".toList))])], ["w".toList]⟩
    let p : ScanParams := ⟨Path.ofText "a.c".toList, Path.ofText ".".toList, Path.ofText ".".toList, none⟩
    let c : Config := { Config.defaults with headerLines := 9223372036854775808 }
    Config.ofTable Config.defaultSource.toList [("header-lines".toList, .int 9223372036854775808)] = .ok c ∧
      d.isFile p.file = true ∧ d.isFolder p.packageRoot = true ∧ strategy p c = .file ∧
      evidence d p c = [.file "LICENSE".toList] ∧ (scan d p c).result = .error .window := by
  let _ := Grammar.Stack.least
  intro d p c
  have he : evidence d p c = [.file "LICENSE".toList] := by decide +kernel
  exact ⟨rfl, by decide +kernel, by decide +kernel, rfl, he,
    Decides.result_eq (.uncounted ⟨by decide +kernel, by decide +kernel⟩ (by decide +kernel) (.inr (he ▸ by simp)))⟩

end Scan
end Licensing
