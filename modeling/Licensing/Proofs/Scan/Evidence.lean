import Licensing.Proofs.Text.Order
import Licensing.Proofs.Text.Utf8
import Licensing.Run
import Licensing.Scan
/-!
# The evidence of a scan

What a scan looks at: whether its file and its package are there, the names of the license files of the package, and the
first lines of the file.
-/
namespace Licensing

theorem Disk.isFile_eq_true_iff {d : Disk} {p : Path} : d.isFile p = true ↔ ∃ content, d.read p = .ok content := by
  unfold isFile read
  cases d.find p with
  | error f => simp
  | ok t => cases t <;> simp

namespace Scan

open Document (Include)

/-! ## License files -/

theorem insertName_eq (n : Text) : ∀ ms : List Text,
    insertName n ms = ms.orderedInsert (fun s t => Text.le s t = true) n
  | [] => rfl
  | m :: ms => by rw [insertName, insertName_eq n ms, List.orderedInsert_cons]

theorem foldr_insertName (ns : List Text) :
    ns.foldr insertName [] = ns.insertionSort fun s t => Text.le s t = true := by
  rw [List.insertionSort, funext fun n => funext (insertName_eq n)]

/-- **The license files are the matching files**, each as often as the directory has it. -/
theorem perm_licenseNames (d : Disk) (dir : Path) (stems : List Text) :
    (licenseNames d dir stems).Perm ((d.fileNames dir).filter (isLicenseName stems)) := by
  rw [licenseNames, foldr_insertName]
  exact List.perm_insertionSort _ _

/-- **The license files stand in the order of their names.** -/
theorem pairwise_licenseNames (d : Disk) (dir : Path) (stems : List Text) :
    (licenseNames d dir stems).Pairwise fun s t => Text.le s t = true := by
  rw [licenseNames, foldr_insertName]
  exact List.pairwise_insertionSort _ _

/-- The order of the directory does not show. -/
theorem licenseNames_eq_of_perm {d₁ d₂ : Disk} {dir : Path} {stems : List Text}
    (h : ((d₁.fileNames dir).filter (isLicenseName stems)).Perm ((d₂.fileNames dir).filter (isLicenseName stems))) :
    licenseNames d₁ dir stems = licenseNames d₂ dir stems := by
  have hperm := (perm_licenseNames d₁ dir stems).trans (h.trans (perm_licenseNames d₂ dir stems).symm)
  exact hperm.eq_of_pairwise' (pairwise_licenseNames d₁ dir stems) (pairwise_licenseNames d₂ dir stems)

/-- The license files of the package as the listing names them. -/
def evidence (d : Disk) (p : ScanParams) (c : Config) : List Include :=
  (licenseNames d p.packageRoot c.licenseStems).map fun n => .file ((p.packageRoot.child n).stripRoot p.root)

/-- There is no evidence if no regular file of the package is named like a license, and only then. -/
theorem evidence_eq_nil_iff {d : Disk} {p : ScanParams} {c : Config} :
    evidence d p c = [] ↔ ∀ n ∈ d.fileNames p.packageRoot, isLicenseName c.licenseStems n = false := by
  have hperm := perm_licenseNames d p.packageRoot c.licenseStems
  rw [evidence, List.map_eq_nil_iff, ← List.length_eq_zero_iff, hperm.length_eq, List.length_eq_zero_iff,
    List.filter_eq_nil_iff]
  simp only [Bool.not_eq_true]

/-! ## Headers -/

theorem header_eq_ok_iff {d : Disk} {file : Path} {n : Nat} {ls : List Text} :
    header d file n = .ok ls ↔ ∃ content, d.read file = .ok content ∧ n ≤ maxWindow ∧ Header.window n content = ls := by
  unfold header
  cases d.read file with
  | error f => simp
  | ok content =>
    by_cases hn : maxWindow < n
    · simp [hn, Nat.not_le.2 hn]
    · simp [hn, Nat.not_lt.1 hn]

/-- Lines have no tag if every tag in them is empty, and only then. -/
theorem tag?_eq_none_iff {ls : List Text} :
    Header.tag? ls = none ↔ ∀ line ∈ ls, ∀ v, Header.lineTag? line = some v → v = [] := by
  rw [Header.tag?, List.find?_eq_none]
  constructor
  · intro h line hline v hv
    have hempty := h v (List.mem_filterMap.2 ⟨line, hline, hv⟩)
    simpa using hempty
  · intro h v hv
    obtain ⟨line, hline, hv⟩ := List.mem_filterMap.1 hv
    simp [h line hline v hv]

theorem window_front (n : Nat) (content : Bytes) :
    Header.window n (front 10 13 n content) = Header.window n content := by
  rw [Header.window, Utf8.decodeLossy_front, Text.lines_front, List.take_take, Nat.min_self, Header.window]

end Scan
end Licensing
