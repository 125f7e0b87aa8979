import Mathlib.Logic.Relation
import Licensing.Proofs.Scan.Evidence
import Licensing.Proofs.Text.LetterCase
/-!
# The license files of a directory

The license files of a directory are its regular files whose stem is one of some stems but for the case of letters, in
the order of their names (`findLicenseFiles_exact`).  Neither the order of the directory nor anything else in it makes a
difference.
-/
namespace Licensing

/-! ## Stems -/

namespace Path

/-- The stem of a name ends in front of the last dot, unless that dot is the first or the last character. -/
inductive IsStem : Text → Text → Prop
  | front {s e : Text} (hs : s ≠ []) (he : e ≠ []) (hdot : '.' ∉ e) : IsStem (s ++ '.' :: e) s
  | whole {name : Text} (h : ∀ s e, name = s ++ '.' :: e → '.' ∉ e → s = [] ∨ e = []) : IsStem name name

theorem exists_last_dot {name : Text} (h : '.' ∈ name) : ∃ s e, name = s ++ '.' :: e ∧ '.' ∉ e := by
  obtain ⟨e, s, hname, he⟩ := List.eq_append_cons_of_mem (List.mem_reverse.2 h)
  refine ⟨s.reverse, e.reverse, ?_, fun hmem => he (List.mem_reverse.1 hmem)⟩
  rw [← List.reverse_reverse name, hname]
  simp

theorem dropWhile_of_not_mem {e : Text} (h : '.' ∉ e) (t : Text) :
    (e.reverse ++ t).dropWhile (· != '.') = t.dropWhile (· != '.') := by
  refine List.dropWhile_append_of_pos fun c hc => ?_
  have hne : c ≠ '.' := fun heq => h (heq ▸ List.mem_reverse.1 hc)
  simpa using hne

theorem stem_of_not_mem {name : Text} (h : '.' ∉ name) : stem name = name := by
  have hdrop := dropWhile_of_not_mem h []
  rw [List.append_nil] at hdrop
  rw [stem, hdrop]
  rfl

theorem stem_append {e : Text} (h : '.' ∉ e) (s : Text) :
    stem (s ++ '.' :: e) = if s = [] ∨ e = [] then s ++ '.' :: e else s := by
  have hrev : (s ++ '.' :: e).reverse = e.reverse ++ '.' :: s.reverse := by simp
  rw [stem, hrev, dropWhile_of_not_mem h, List.dropWhile_cons_of_neg (by decide)]
  by_cases hs : s = []
  · simp [hs]
  · by_cases he : e = []
    · simp [he]
    · have hlen : e.length ≠ 0 := mt List.length_eq_zero_iff.1 he
      simp [hs, he]

theorem isStem_of_stem_eq {name : Text} (h : stem name = name) : IsStem name name := by
  refine .whole fun s e hname he => Decidable.not_not.1 fun hedge => ?_
  rw [hname, stem_append he, if_neg hedge] at h
  have hlen := congrArg List.length h
  simp at hlen

/-- **Every name has one stem.** -/
theorem stem_eq_iff {name s : Text} : stem name = s ↔ IsStem name s := by
  constructor
  · rintro rfl
    by_cases hwhole : stem name = name
    · rw [hwhole]
      exact isStem_of_stem_eq hwhole
    · obtain ⟨s, e, rfl, he⟩ := exists_last_dot (Decidable.not_not.1 fun hdot => hwhole (stem_of_not_mem hdot))
      by_cases hedge : s = [] ∨ e = []
      · exact absurd (by rw [stem_append he, if_pos hedge]) hwhole
      · rw [stem_append he, if_neg hedge]
        exact .front (mt .inl hedge) (mt .inr hedge) he
  · rintro (⟨hs, he, hdot⟩ | h)
    · rw [stem_append hdot, if_neg (not_or.2 ⟨hs, he⟩)]
    · by_cases hdot : '.' ∈ name
      · obtain ⟨s, e, rfl, he⟩ := exists_last_dot hdot
        rw [stem_append he, if_pos (h s e rfl he)]
      · exact stem_of_not_mem hdot

end Path

/-! ## Names that match -/

namespace Scan

/-- The stem of a name is one of some stems in lower case. -/
def Matches (stems : List Text) (name : Text) : Prop :=
  ∃ s w, Path.IsStem name s ∧ w ∈ stems ∧ s.lower = w.lower

/-- Stems that differ only in their order, in how often they occur, and in the case of ASCII letters. -/
def Restyled (stems stems' : List Text) : Prop := ∀ t, t ∈ stems.map Text.folded ↔ t ∈ stems'.map Text.folded

variable {stems stems' : List Text}

theorem isLicenseName_iff {name : Text} : isLicenseName stems name = true ↔ Matches stems name := by
  rw [isLicenseName, List.contains_iff_mem, List.mem_map]
  constructor
  · rintro ⟨w, hw, hlower⟩
    exact ⟨Path.stem name, w, Path.stem_eq_iff.1 rfl, hw, hlower.symm⟩
  · rintro ⟨s, w, hs, hw, hlower⟩
    rw [Path.stem_eq_iff.2 hs]
    exact ⟨w, hw, hlower.symm⟩

theorem Restyled.symm (h : Restyled stems stems') : Restyled stems' stems := fun t => (h t).symm

theorem Restyled.matches {name : Text} (h : Restyled stems stems') (hname : Matches stems name) :
    Matches stems' name := by
  obtain ⟨s, w, hs, hw, hlower⟩ := hname
  obtain ⟨w', hw', hfolded⟩ := List.mem_map.1 ((h w.folded).1 (List.mem_map_of_mem hw))
  exact ⟨s, w', hs, hw', hlower.trans (Text.lower_eq_of_folded_eq hfolded).symm⟩

theorem Restyled.isLicenseName_eq (h : Restyled stems stems') : isLicenseName stems' = isLicenseName stems := by
  funext name
  rw [Bool.eq_iff_iff, isLicenseName_iff, isLicenseName_iff]
  exact ⟨h.symm.matches, h.matches⟩

/-! ## Directories -/

/-- The names of the regular files among some entries. -/
def filesOf (entries : List (Text × Tree)) : List Text :=
  entries.filterMap fun e =>
    match e.2 with
    | .file _ => some e.1
    | .folder _ => none

variable {d d' : Disk} {dir : Path} {entries entries' : List (Text × Tree)}

theorem fileNames_of_find (h : d.find dir = .ok (.folder entries)) : d.fileNames dir = filesOf entries := by
  rw [Disk.fileNames, h]
  rfl

theorem mem_filesOf_iff {n : Text} : n ∈ filesOf entries ↔ ∃ content, (n, .file content) ∈ entries := by
  rw [filesOf, List.mem_filterMap]
  constructor
  · rintro ⟨⟨m, content | sub⟩, hmem, hm⟩
    · obtain rfl : m = n := Option.some.inj hm
      exact ⟨content, hmem⟩
    · cases hm
  · rintro ⟨content, hmem⟩
    exact ⟨_, hmem, rfl⟩

theorem filesOf_sublist (entries : List (Text × Tree)) : (filesOf entries).Sublist (entries.map Prod.fst) := by
  induction entries with
  | nil => exact .slnil
  | cons e entries ih =>
    obtain ⟨n, content | sub⟩ := e
    · exact ih.cons_cons n
    · exact ih.cons n

/-- One change of a directory that leaves its license files as they are: another order, a folder, what is in a folder or
in a file, or a file that does not match. -/
inductive Change (stems : List Text) : List (Text × Tree) → List (Text × Tree) → Prop
  | order {es es' : List (Text × Tree)} (h : es.Perm es') : Change stems es es'
  | folder (n : Text) (sub es : List (Text × Tree)) : Change stems es ((n, .folder sub) :: es)
  | inside (n : Text) (sub sub' es : List (Text × Tree)) :
      Change stems ((n, .folder sub) :: es) ((n, .folder sub') :: es)
  | content (n : Text) (b b' : Bytes) (es : List (Text × Tree)) :
      Change stems ((n, .file b) :: es) ((n, .file b') :: es)
  | other {n : Text} (h : ¬ Matches stems n) (b : Bytes) (es : List (Text × Tree)) :
      Change stems es ((n, .file b) :: es)

theorem Change.perm (h : Change stems entries entries') :
    ((filesOf entries).filter (isLicenseName stems)).Perm ((filesOf entries').filter (isLicenseName stems)) := by
  cases h with
  | order h => exact (h.filterMap _).filter _
  | folder n sub => exact .refl _
  | inside n sub sub' es => exact .refl _
  | content n b b' es => exact .refl _
  | @other n h b =>
    have hn : isLicenseName stems n = false := Bool.eq_false_iff.2 (mt isLicenseName_iff.1 h)
    have hcons : filesOf ((n, .file b) :: entries) = n :: filesOf entries := rfl
    rw [hcons, List.filter_cons_of_neg (by rw [hn]; decide)]

/-- **Changes leave the matching files as they are**, whatever is added or taken away, and however often. -/
theorem perm_of_changes (h : Relation.EqvGen (Change stems) entries entries') :
    ((filesOf entries).filter (isLicenseName stems)).Perm ((filesOf entries').filter (isLicenseName stems)) := by
  induction h with
  | rel _ _ h => exact h.perm
  | refl _ => exact .refl _
  | symm _ _ _ ih => exact ih.symm
  | trans _ _ _ _ _ ih ih' => exact ih.trans ih'

theorem isFolder_of_find (h : d.find dir = .ok (.folder entries)) : d.isFolder dir = true := by
  rw [Disk.isFolder, h]

theorem mem_licenseNames_iff {n : Text} (h : d.find dir = .ok (.folder entries)) :
    n ∈ licenseNames d dir stems ↔ (∃ content, (n, .file content) ∈ entries) ∧ Matches stems n := by
  rw [(perm_licenseNames d dir stems).mem_iff, List.mem_filter, fileNames_of_find h, mem_filesOf_iff, isLicenseName_iff]

theorem licenseNames_ascending (h : d.find dir = .ok (.folder entries)) (hnames : (entries.map Prod.fst).Nodup) :
    (licenseNames d dir stems).Pairwise (· < ·) := by
  have hnodup : (licenseNames d dir stems).Nodup := by
    rw [(perm_licenseNames d dir stems).nodup_iff, fileNames_of_find h]
    exact (hnames.sublist (filesOf_sublist entries)).filter _
  exact ((pairwise_licenseNames d dir stems).and hnodup).imp Text.lt_iff.2

theorem findLicenseFiles_of_changes (h : d.find dir = .ok (.folder entries)) (h' : d'.find dir = .ok (.folder entries'))
    (hchanges : Relation.EqvGen (Change stems) entries entries') (hstems : Restyled stems stems') :
    findLicenseFiles d' dir stems' = findLicenseFiles d dir stems := by
  have hperm : ((d'.fileNames dir).filter (isLicenseName stems)).Perm
      ((d.fileNames dir).filter (isLicenseName stems)) := by
    rw [fileNames_of_find h, fileNames_of_find h']
    exact (perm_of_changes hchanges).symm
  have hnames : licenseNames d' dir stems' = licenseNames d dir stems := by
    rw [licenseNames, hstems.isLicenseName_eq]
    exact licenseNames_eq_of_perm hperm
  rw [findLicenseFiles, findLicenseFiles, isFolder_of_find h, isFolder_of_find h', hnames]

/-- **The license files of a directory are exactly its matching regular files**, each once, in the strict order of
their names.  They stay the same when the directory is listed in another order, when folders, what is in them or files
that do not match come and go, and when the stems are put in another order, repeated, or written in small letters or
capitals of ASCII. -/
theorem findLicenseFiles_exact (h : d.find dir = .ok (.folder entries)) (hnames : (entries.map Prod.fst).Nodup)
    (stems : List Text) :
    (∃ names : List Text, (findLicenseFiles d dir stems).result = .ok (names.map dir.child) ∧ names.Pairwise (· < ·) ∧
      ∀ n, n ∈ names ↔ (∃ content, (n, .file content) ∈ entries) ∧ Matches stems n) ∧
    ∀ d' entries' stems', d'.find dir = .ok (.folder entries') → Relation.EqvGen (Change stems) entries entries' →
      Restyled stems stems' → findLicenseFiles d' dir stems' = findLicenseFiles d dir stems := by
  refine ⟨⟨licenseNames d dir stems, ?_, licenseNames_ascending h hnames, fun n => mem_licenseNames_iff h⟩,
    fun d' entries' stems' h' => findLicenseFiles_of_changes h h'⟩
  rw [findLicenseFiles, if_pos (isFolder_of_find h)]
  rfl

theorem findLicenseFiles_exact_of_dotted_names :
    let dir := Path.ofText "/w".toList
    let sub : List (Text × Tree) := [("LICENSE".toList, .file [])]
    let entries : List (Text × Tree) := [("license.md".toList, .file []), (".license".toList, .file []),
      ("LICENSE.tar.gz".toList, .file []), ("LICENSE".toList, .file [])]
    let d : Disk := ⟨.folder [("w".toList, .folder entries)], []⟩
    let d' : Disk := ⟨.folder [("w".toList, .folder (("COPYING".toList, .folder sub) :: entries.reverse))], []⟩
    let stems := ["License".toList, "COPYING".toList]
    let stems' := ["copying".toList, "LICENSE".toList, "license".toList]
    (entries.map Prod.fst).Nodup ∧
      (findLicenseFiles d dir stems).result = .ok [dir.child "LICENSE".toList, dir.child "license.md".toList] ∧
      findLicenseFiles d' dir stems' = findLicenseFiles d dir stems := by
  intro dir sub entries d d' stems stems'
  have h : d.find dir = .ok (.folder entries) := rfl
  have h' : d'.find dir = .ok (.folder (("COPYING".toList, .folder sub) :: entries.reverse)) := rfl
  have hnames : (entries.map Prod.fst).Nodup := by decide
  have hchanges : Relation.EqvGen (Change stems) entries (("COPYING".toList, .folder sub) :: entries.reverse) :=
    .trans _ _ _ (.rel _ _ (.order entries.reverse_perm.symm)) (.rel _ _ (.folder _ sub _))
  have hstems : Restyled stems stems' := by
    intro t
    have hleft : stems.map Text.folded = ["license".toList, "copying".toList] := by decide +kernel
    have hright : stems'.map Text.folded = ["copying".toList, "license".toList, "license".toList] := by decide +kernel
    rw [hleft, hright]
    simp [or_comm]
  obtain ⟨-, hsame⟩ := findLicenseFiles_exact h hnames stems
  exact ⟨hnames, by decide +kernel, hsame d' _ stems' h' hchanges hstems⟩

end Scan
end Licensing
