import Licensing.Proofs.Scan.Evidence
/-!
# A scan depends on its evidence alone

Two disks on which the same evidence is found give the same listing or the same failure, and the same log, whatever else
they hold: the texts of the license files, other files, the order of the directories, and everything behind the header.
-/
namespace Licensing
namespace Scan

/-- Two disks agree on the evidence: whether the file and the package are there, which license files lie directly inside
the package, in whatever order, and the bytes of the first lines of the file with the ends of the lines. -/
structure Agree (p : ScanParams) (c : Config) (d₁ d₂ : Disk) : Prop where
  file : d₁.isFile p.file = d₂.isFile p.file
  package : d₁.isFolder p.packageRoot = d₂.isFolder p.packageRoot
  names : ((d₁.fileNames p.packageRoot).filter (isLicenseName c.licenseStems)).Perm
    ((d₂.fileNames p.packageRoot).filter (isLicenseName c.licenseStems))
  lines : ∀ b₁ b₂, d₁.read p.file = .ok b₁ → d₂.read p.file = .ok b₂ →
    front 10 13 c.headerLines b₁ = front 10 13 c.headerLines b₂

variable {p : ScanParams} {c : Config} {d₁ d₂ : Disk}

theorem Agree.findLicenseFiles_eq (h : Agree p c d₁ d₂) :
    findLicenseFiles d₁ p.packageRoot c.licenseStems = findLicenseFiles d₂ p.packageRoot c.licenseStems := by
  rw [findLicenseFiles, findLicenseFiles, h.package, licenseNames_eq_of_perm h.names]

/-- Bytes behind the window do not reach into it. -/
theorem Agree.header_eq (h : Agree p c d₁ d₂) (hf : d₁.isFile p.file = true) :
    header d₁ p.file c.headerLines = header d₂ p.file c.headerLines := by
  obtain ⟨b₁, h₁⟩ := Disk.isFile_eq_true_iff.1 hf
  obtain ⟨b₂, h₂⟩ := Disk.isFile_eq_true_iff.1 (h.file ▸ hf)
  have hw : Header.window c.headerLines b₁ = Header.window c.headerLines b₂ := by
    rw [← window_front, h.lines b₁ b₂ h₁ h₂, window_front]
  simp only [header, h₁, h₂, hw]

theorem Agree.licenseFor_eq [Grammar.Stack] (h : Agree p c d₁ d₂) (hf : d₁.isFile p.file = true) :
    licenseFor d₁ p c = licenseFor d₂ p c := by
  funext evidence strategy
  cases strategy with
  | file => rfl
  | spdxHeader => simp only [licenseFor, tag?, h.header_eq hf]

/-- **A scan depends on nothing but its evidence.** -/
theorem scan_eq_of_agree [Grammar.Stack] (h : Agree p c d₁ d₂) : scan d₁ p c = scan d₂ p c := by
  unfold scan
  rw [← h.file]
  cases hf : d₁.isFile p.file with
  | false => rfl
  | true => simp only [statements, h.findLicenseFiles_eq, h.licenseFor_eq hf, h.header_eq hf]

theorem scan_eq_of_agree_on_one_line :
    letI := Grammar.Stack.least
    let p : ScanParams :=
      ⟨Path.ofText "/w/a.c".toList, Path.ofText "/w".toList, Path.ofText "/".toList, some .spdxHeader⟩
    let c : Config := { Config.defaults with headerLines := 1 }
    let line := Utf8.encode "// SPDX-License-Identifier: MIT\r\n".toList
    let d₁ : Disk := ⟨.folder [("w".toList, .folder [("a.c".toList, .file (line ++ [0xC2, 0x0A])),
      ("LICENSE".toList, .file []), ("copying.txt".toList, .file [])])], []⟩
    let d₂ : Disk := ⟨.folder [("w".toList, .folder [("src".toList, .folder []), ("copying.txt".toList, .file [1]),
      ("a.c".toList, .file line), ("LICENSE".toList, .file [0xFF])])], ["w".toList]⟩
    Agree p c d₁ d₂ ∧ scan d₁ p c = scan d₂ p c := by
  let _ := Grammar.Stack.least
  intro p c line d₁ d₂
  have h : Agree p c d₁ d₂ := by
    refine ⟨by decide +kernel, by decide +kernel, by decide +kernel, fun b₁ b₂ h₁ h₂ => ?_⟩
    have hb₁ : d₁.read p.file = .ok (line ++ [0xC2, 0x0A]) := rfl
    have hb₂ : d₂.read p.file = .ok line := rfl
    rw [hb₁] at h₁
    rw [hb₂] at h₂
    cases h₁
    cases h₂
    decide +kernel
  exact ⟨h, scan_eq_of_agree h⟩

end Scan
end Licensing
