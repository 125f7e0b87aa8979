import Mathlib.Data.Char
import Mathlib.Data.List.Lex
import Mathlib.Data.List.Sort
import Licensing.Proofs.Token.Words
import Licensing.Registry.Identifiers
/-!
# Entries of the registries

A text names the entry of a registry that is equal to it but for the case of ASCII letters.  The entries of both tables
are ASCII texts whose folded forms strictly ascend, so a text names at most one entry, an entry names itself, and the
indexes find exactly the entry that is named (`findLicense?_eq_some_iff`, `findException?_eq_some_iff`).
-/
namespace Licensing
namespace Registry

open Token (Unbroken)

/-- The text is an entry of the table but for the case of ASCII letters. -/
def Names (ids : List Text) (t entry : Text) : Prop := entry ∈ ids ∧ entry.folded = t.folded

/-- What both tables have in common, and all that the lemmas below use of them. -/
structure Tidy (ids : List Text) : Prop where
  ascii : ∀ i ∈ ids, i.isAscii = true
  ascending : (ids.map Text.folded).SortedLT
  unbroken : ∀ i ∈ ids, i ≠ [] ∧ Unbroken i

theorem tidy_licenses : Tidy licenses := by
  constructor <;> decide +kernel

theorem tidy_exceptions : Tidy exceptions := by
  constructor <;> decide +kernel

theorem Names.congr {ids : List Text} {s t n : Text} (h : s.folded = t.folded) : Names ids s n ↔ Names ids t n := by
  rw [Names, Names, h]

theorem Names.self {ids : List Text} {n : Text} (h : n ∈ ids) : Names ids n n := ⟨h, rfl⟩

section Tidy

variable {ids : List Text} (hids : Tidy ids)
include hids

/-- **A text names at most one entry.** -/
theorem Names.unique {t m n : Text} (hm : Names ids t m) (hn : Names ids t n) : m = n :=
  List.inj_on_of_nodup_map hids.ascending.nodup hm.1 hn.1 (hm.2.trans hn.2.symm)

theorem Names.ne_nil {t n : Text} (h : Names ids t n) : t ≠ [] := by
  rintro rfl
  exact (hids.unbroken n h.1).1 (List.map_eq_nil_iff.1 h.2)

theorem Names.unbroken {t n : Text} (h : Names ids t n) : Unbroken t :=
  Unbroken.of_folded_eq h.2 (hids.unbroken n h.1).2

end Tidy

/-- What an index holds under a key is the first entry with that lower-case spelling. -/
theorem lookup_index (k : Text) : ∀ ids : List Text, (index ids).lookup k = ids.find? fun i => i.lower = k
  | [] => rfl
  | i :: ids => by
    have ih := lookup_index k ids
    rw [index] at ih
    rw [index, List.map_cons, List.lookup_cons, List.find?_cons, ih]
    by_cases hk : i.lower = k
    · simp [hk]
    · have hk' : (k == i.lower) = false := beq_eq_false_iff_ne.2 (Ne.symm hk)
      simp [hk, hk']

/-- **Looking up in an index of ASCII texts is searching the texts themselves** for the first that is equal but for the
case of ASCII letters. -/
theorem find?_index {ids : List Text} (hids : ∀ i ∈ ids, i.isAscii = true) (t : Text) :
    (index ids).find? t = ids.find? fun i => i.folded = t.folded := by
  rw [Index.find?]
  split
  · rename_i ht
    rw [lookup_index, ← List.head?_filter, ← List.head?_filter]
    refine congrArg List.head? (List.filter_congr fun i hi => ?_)
    rw [Text.lower_of_isAscii (hids i hi), Text.lower_of_isAscii ht]
  · rename_i ht
    symm
    simp only [List.find?_eq_none, decide_eq_true_eq]
    exact fun i hi h => ht (Text.isAscii_of_folded_eq h (hids i hi))

/-- The search finds the entry that is named. -/
theorem find?_folded_eq_some_iff {ids : List Text} (hids : Tidy ids) {t n : Text} :
    (ids.find? fun i => i.folded = t.folded) = some n ↔ Names ids t n := by
  have found {m : Text} (h : (ids.find? fun i => i.folded = t.folded) = some m) : Names ids t m :=
    ⟨List.mem_of_find?_eq_some h, by simpa using List.find?_some h⟩
  constructor
  · exact found
  · intro h
    have hsome : (ids.find? fun i => i.folded = t.folded).isSome := by
      simp only [List.find?_isSome, decide_eq_true_eq]
      exact ⟨n, h⟩
    obtain ⟨m, hm⟩ := Option.isSome_iff_exists.1 hsome
    rw [hm, (found hm).unique hids h]

/-- **The index of a tidy table finds the entry that is named, and nothing else.** -/
theorem find?_index_eq_some_iff {ids : List Text} (hids : Tidy ids) {t n : Text} :
    (index ids).find? t = some n ↔ Names ids t n := by
  rw [find?_index hids.ascii, find?_folded_eq_some_iff hids]

theorem findLicense?_eq_some_iff {t n : Text} : findLicense? t = some n ↔ Names licenses t n :=
  find?_index_eq_some_iff tidy_licenses

theorem findException?_eq_some_iff {t n : Text} : findException? t = some n ↔ Names exceptions t n :=
  find?_index_eq_some_iff tidy_exceptions

theorem findLicense?_eq_none_iff {t : Text} : findLicense? t = none ↔ ∀ n, ¬ Names licenses t n := by
  simp only [Option.eq_none_iff_forall_ne_some, ne_eq, findLicense?_eq_some_iff]

end Registry
end Licensing
