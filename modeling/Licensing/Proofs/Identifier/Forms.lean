import Licensing.Identifier
import Licensing.Proofs.Except
import Licensing.Proofs.Registry.Entries
import Licensing.Proofs.Text.Cuts
/-!
# The forms of identifiers

What each check of a single token accepts, said without the check: an idstring is a text over a small alphabet, a
license reference is the text of its parts (`licenseRef_eq_ok_iff`), and the identifiers of the registries are the
texts that name an entry, with or without an or-later mark behind it.
-/
namespace Licensing
namespace Identifier

open Registry (Names licenses exceptions)
open Token (Unbroken)

/-- At least one character, and none but letters and digits of ASCII, hyphens and points. -/
def IsIdString (t : Text) : Prop := t ≠ [] ∧ ∀ c ∈ t, isIdChar c = true

instance (t : Text) : Decidable (IsIdString t) :=
  decidable_of_iff (t ≠ [] ∧ t.all isIdChar = true) (by simp [IsIdString])

theorem firstIllegal?_eq_none_iff : ∀ {k : Nat} {t : Text}, firstIllegal? k t = none ↔ ∀ c ∈ t, isIdChar c = true
  | _, [] => by simp [firstIllegal?]
  | k, c :: t => by
    rw [firstIllegal?, List.forall_mem_cons]
    split
    · rename_i h
      rw [firstIllegal?_eq_none_iff]
      exact ⟨fun ht => ⟨h, ht⟩, fun ht => ht.2⟩
    · rename_i h
      exact ⟨fun ht => (by cases ht), fun ht => absurd ht.1 h⟩

theorem idString_eq_ok_iff {t r : Text} : idString t = .ok r ↔ r = t ∧ IsIdString t := by
  unfold idString IsIdString
  cases t with
  | nil => simp
  | cons c t =>
    cases hf : firstIllegal? 0 (c :: t) with
    | none =>
      have h := firstIllegal?_eq_none_iff.1 hf
      simp only [List.isEmpty_cons, Bool.false_eq_true, if_false, Except.ok.injEq]
      exact ⟨fun he => ⟨he.symm, List.cons_ne_nil c t, h⟩, fun he => he.1.symm⟩
    | some p =>
      have hn : ¬ ∀ d ∈ c :: t, isIdChar d = true := fun h => by
        rw [firstIllegal?_eq_none_iff.2 h] at hf
        cases hf
      simp only [List.isEmpty_cons, Bool.false_eq_true, if_false, reduceCtorEq, false_iff]
      exact fun h => hn h.2.2

theorem idStringAt_eq_ok_iff {whole t r : Text} {k : Nat} : idStringAt whole k t = .ok r ↔ r = t ∧ IsIdString t := by
  rw [← idString_eq_ok_iff, idStringAt]
  cases idString t <;> simp [Except.mapError]

/-- A reference that a text may spell: its parts are idstrings. -/
def IsReference : Simple → Prop
  | .id _ _ => False
  | .ref n d => IsIdString n ∧ ∀ x ∈ d, IsIdString x

theorem licenseRefFrom_eq_ok_iff {whole t : Text} {d : Option Text} {k : Nat} {s : Simple} :
    licenseRefFrom whole d k t = .ok s ↔ ∃ n, s = .ref n d ∧ t = licenseRefLead ++ n ∧ IsIdString n := by
  unfold licenseRefFrom
  cases ha : Text.after? licenseRefLead t with
  | none =>
    simp only [reduceCtorEq, false_iff, not_exists, not_and]
    rintro n - rfl
    rw [Text.after?_append] at ha
    cases ha
  | some r =>
    obtain rfl := Text.after?_eq_some_iff.1 ha
    simp only [bind_eq_ok_iff, idStringAt_eq_ok_iff, List.append_cancel_left_eq]
    constructor
    · rintro ⟨_, ⟨rfl, h⟩, he⟩
      cases he
      exact ⟨_, rfl, rfl, h⟩
    · rintro ⟨n, rfl, rfl, h⟩
      exact ⟨_, ⟨rfl, h⟩, rfl⟩

theorem not_mem_of_isIdString {c : Char} {t : Text} (hc : isIdChar c = false) (h : IsIdString t) : c ∉ t := fun hm => by
  rw [h.2 c hm] at hc
  cases hc

/-- **A license reference is read exactly from the text of its parts.** -/
theorem licenseRef_eq_ok_iff {t : Text} {s : Simple} : licenseRef t = .ok s ↔ t = s.render ∧ IsReference s := by
  unfold licenseRef
  constructor
  · intro h
    split at h
    · obtain ⟨n, rfl, rfl, hn⟩ := licenseRefFrom_eq_ok_iff.1 h
      exact ⟨rfl, hn, fun x hx => by cases hx⟩
    · rename_i r hr
      obtain rfl := Text.after?_eq_some_iff.1 hr
      split at h
      · cases h
      · rename_i d r' hcut
        obtain ⟨rfl, -⟩ := Text.cut?_singleton_eq_some_iff.1 hcut
        obtain ⟨_, hd, h⟩ := bind_eq_ok_iff.1 h
        obtain ⟨rfl, hid⟩ := idStringAt_eq_ok_iff.1 hd
        obtain ⟨n, rfl, rfl, hn⟩ := licenseRefFrom_eq_ok_iff.1 h
        refine ⟨by simp [Simple.render, refText], hn, fun x hx => ?_⟩
        obtain rfl := Option.some.inj hx
        exact hid
  · rintro ⟨rfl, h⟩
    cases s with
    | id n later => exact absurd h id
    | ref n d =>
      cases d with
      | none =>
        have ha : Text.after? documentRefLead (licenseRefLead ++ n) = none := rfl
        simp only [Simple.render, refText, ha]
        exact licenseRefFrom_eq_ok_iff.2 ⟨n, rfl, rfl, h.1⟩
      | some d =>
        have hd : IsIdString d := h.2 d rfl
        have ht : (Simple.ref n (some d)).render = documentRefLead ++ (d ++ ':' :: (licenseRefLead ++ n)) := by
          simp [Simple.render, refText]
        rw [ht, Text.after?_append]
        simp only [Text.cut?_singleton_eq_some_iff.2 ⟨rfl, not_mem_of_isIdString (c := ':') rfl hd⟩]
        rw [idStringAt_eq_ok_iff.2 ⟨rfl, hd⟩]
        exact licenseRefFrom_eq_ok_iff.2 ⟨n, rfl, rfl, h.1⟩

theorem licenseName_eq_ok_iff {t n : Text} : licenseName t = .ok n ↔ Names licenses t n := by
  rw [← Registry.findLicense?_eq_some_iff]
  unfold licenseName
  cases Registry.findLicense? t <;> simp

theorem map_licenseName_eq_ok_iff {t : Text} {later : Bool} {s : Simple} :
    (licenseName t).map (Simple.id · later) = .ok s ↔ ∃ n, Names licenses t n ∧ s = .id n later := by
  simp only [map_eq_ok_iff, licenseName_eq_ok_iff]
  exact exists_congr fun n => and_congr_right fun _ => eq_comm

theorem licenseId_eq_ok_iff {t : Text} {s : Simple} :
    licenseId t = .ok s ↔ ∃ n, Names licenses t n ∧ s = .id n false :=
  map_licenseName_eq_ok_iff

theorem licenseIdAndPlus_eq_ok_iff {t : Text} {s : Simple} :
    licenseIdAndPlus t = .ok s ↔ ∃ u n, t = u ++ ['+'] ∧ Names licenses u n ∧ s = .id n true := by
  unfold licenseIdAndPlus
  constructor
  · intro h
    split at h
    · cases h
    · rename_i u hu
      obtain ⟨n, hn, rfl⟩ := map_licenseName_eq_ok_iff.1 h
      exact ⟨u, n, Text.before?_eq_some_iff.1 hu, hn, rfl⟩
  · rintro ⟨u, n, ht, hn, rfl⟩
    rw [Text.before?_eq_some_iff.2 ht]
    exact map_licenseName_eq_ok_iff.2 ⟨n, hn, rfl⟩

theorem exceptionId_eq_ok_iff {t x : Text} : exceptionId t = .ok x ↔ Names exceptions t x := by
  rw [← Registry.findException?_eq_some_iff]
  unfold exceptionId
  cases Registry.findException? t <;> simp

theorem isBreak_of_isIdChar {c : Char} (h : isIdChar c = true) : Token.isBreak c = false := by
  cases hb : Token.isBreak c with
  | false => rfl
  | true =>
    simp only [Token.isBreak, Token.isParen, Bool.or_eq_true, beq_iff_eq] at hb
    rcases hb with rfl | rfl | rfl <;> cases h

theorem IsIdString.unbroken {t : Text} (h : IsIdString t) : Unbroken t := fun c hc => isBreak_of_isIdChar (h.2 c hc)

theorem unbroken_refText {n : Text} {d : Option Text} (hn : IsIdString n) (hd : ∀ x ∈ d, IsIdString x) :
    Unbroken (refText n d) := by
  have hl : Unbroken licenseRefLead := by decide
  have hd' : Unbroken documentRefLead := by decide
  cases d with
  | none => exact hl.append hn.unbroken
  | some d =>
    have hc : Unbroken (':' :: licenseRefLead) := by decide
    exact ((hd'.append (hd d rfl).unbroken).append hc).append hn.unbroken

theorem refText_ne_nil (n : Text) (d : Option Text) : refText n d ≠ [] := by
  cases d with
  | none => exact List.append_ne_nil_of_left_ne_nil (by decide) n
  | some d => exact List.append_ne_nil_of_left_ne_nil (List.append_ne_nil_of_right_ne_nil _ (List.cons_ne_nil _ _)) n

end Identifier
end Licensing
