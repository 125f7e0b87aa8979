import Licensing.Proofs.Text.Cuts
/-!
# The leftmost place

The first place of a text at which what follows has a property, and the leftmost occurrence of a needle as such a place.
-/
namespace Licensing
namespace Text

/-- What follows `a` has the property, and it does so nowhere further to the left. -/
structure Leftmost (P : Text → Prop) (line a t : Text) : Prop where
  eq : line = a ++ t
  holds : P t
  first : ∀ a' t', line = a' ++ t' → P t' → a.length ≤ a'.length

variable {P : Text → Prop} {line a t : Text} {c : Char}

theorem leftmost_nil_iff : Leftmost P [] a t ↔ a = [] ∧ t = [] ∧ P [] := by
  constructor
  · rintro ⟨heq, hP, -⟩
    obtain ⟨rfl, rfl⟩ := List.append_eq_nil_iff.1 heq.symm
    exact ⟨rfl, rfl, hP⟩
  · rintro ⟨rfl, rfl, hP⟩
    exact ⟨rfl, hP, fun _ _ _ _ => Nat.zero_le _⟩

theorem leftmost_cons_of_holds (h : P (c :: line)) : Leftmost P (c :: line) a t ↔ a = [] ∧ t = c :: line := by
  constructor
  · rintro ⟨heq, -, hfirst⟩
    obtain rfl := List.eq_nil_of_length_eq_zero (Nat.le_zero.1 (hfirst [] (c :: line) rfl h))
    exact ⟨rfl, heq.symm⟩
  · rintro ⟨rfl, rfl⟩
    exact ⟨rfl, h, fun _ _ _ _ => Nat.zero_le _⟩

theorem leftmost_cons_of_not (h : ¬ P (c :: line)) :
    Leftmost P (c :: line) a t ↔ ∃ a', a = c :: a' ∧ Leftmost P line a' t := by
  constructor
  · rintro ⟨heq, hP, hfirst⟩
    cases a with
    | nil => exact absurd (heq ▸ hP) h
    | cons d a =>
      obtain ⟨rfl, rfl⟩ := List.cons.inj heq
      refine ⟨a, rfl, rfl, hP, fun a' t' ht hP' => ?_⟩
      exact Nat.le_of_succ_le_succ (hfirst (c :: a') t' (by rw [ht]; rfl) hP')
  · rintro ⟨a, rfl, rfl, hP, hfirst⟩
    refine ⟨rfl, hP, fun a' t' ht hP' => ?_⟩
    cases a' with
    | nil => exact absurd (ht ▸ hP') h
    | cons d a' =>
      obtain ⟨rfl, hrest⟩ := List.cons.inj ht
      exact Nat.succ_le_succ (hfirst a' t' hrest hP')

/-- **A text is cut at the leftmost occurrence of the needle.** -/
theorem cut?_eq_some_iff {needle r : Text} :
    cut? needle line = some (a, r) ↔ Leftmost (needle <+: ·) line a (needle ++ r) := by
  induction line generalizing a with
  | nil =>
    rw [leftmost_nil_iff, cut?, Option.map_eq_some_iff]
    simp only [after?_eq_some_iff, Prod.mk.injEq]
    constructor
    · rintro ⟨s, hs, rfl, rfl⟩
      exact ⟨rfl, hs.symm, (List.append_eq_nil_iff.1 hs.symm).1 ▸ List.prefix_refl _⟩
    · rintro ⟨rfl, hr, -⟩
      exact ⟨r, hr.symm, rfl, rfl⟩
  | cons c line ih =>
    rw [cut?]
    cases h : after? needle (c :: line) with
    | some s =>
      have hs := after?_eq_some_iff.1 h
      rw [leftmost_cons_of_holds ⟨s, hs.symm⟩, hs, List.append_cancel_left_eq]
      simp [eq_comm]
    | none =>
      rw [leftmost_cons_of_not (after?_eq_none_iff.1 h), Option.map_eq_some_iff]
      simp only [Prod.mk.injEq]
      constructor
      · rintro ⟨⟨a', r'⟩, hcut, rfl, rfl⟩
        exact ⟨a', rfl, ih.1 hcut⟩
      · rintro ⟨a', rfl, hleft⟩
        exact ⟨(a', r), ih.2 hleft, rfl, rfl⟩

end Text
end Licensing
