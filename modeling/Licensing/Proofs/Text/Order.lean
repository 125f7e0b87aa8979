import Mathlib.Data.List.Sort
import Licensing.Text
/-!
# The order of texts

The code-point order is total, so a list of texts can be put in order in one way only.
-/
namespace Licensing
namespace Text

theorem le_total : ∀ s t : Text, le s t = true ∨ le t s = true
  | [], _ => Or.inl rfl
  | _ :: _, [] => Or.inr rfl
  | c :: s, d :: t => by
    simp only [le, eq_comm (a := d)]
    split
    · exact le_total s t
    · rename_i hne
      have hn : c.toNat ≠ d.toNat := fun h => hne (Char.toNat_inj.1 h)
      simpa using Nat.lt_or_gt_of_ne hn

theorem le_antisymm : ∀ {s t : Text}, le s t = true → le t s = true → s = t
  | [], [], _, _ => rfl
  | c :: s, d :: t, hst, hts => by
    rw [le] at hst hts
    by_cases hcd : c = d
    · rw [if_pos hcd] at hst
      rw [if_pos hcd.symm] at hts
      rw [hcd, le_antisymm hst hts]
    · rw [if_neg hcd] at hst
      rw [if_neg (Ne.symm hcd)] at hts
      simp only [decide_eq_true_eq] at hst hts
      exact absurd hts (Nat.lt_asymm hst)

theorem le_trans : ∀ {s t u : Text}, le s t = true → le t u = true → le s u = true
  | [], _, _, _, _ => rfl
  | c :: s, d :: t, e :: u, hst, htu => by
    rw [le] at hst htu ⊢
    by_cases hcd : c = d
    · subst hcd
      rw [if_pos rfl] at hst
      by_cases hce : c = e
      · rw [if_pos hce] at htu ⊢
        exact le_trans hst htu
      · rwa [if_neg hce] at htu ⊢
    · rw [if_neg hcd] at hst
      simp only [decide_eq_true_eq] at hst
      by_cases hde : d = e
      · subst hde
        rwa [if_neg hcd, decide_eq_true_eq]
      · rw [if_neg hde, decide_eq_true_eq] at htu
        have hce : c ≠ e := fun h => Nat.lt_asymm hst (h ▸ htu)
        rw [if_neg hce, decide_eq_true_eq]
        exact Nat.lt_trans hst htu

/-- The strict order is the lexicographic one. -/
theorem lt_iff : ∀ {s t : Text}, s < t ↔ le s t = true ∧ s ≠ t
  | [], [] => by simp
  | [], _ :: _ => by simp [le]
  | _ :: _, [] => by simp [le]
  | c :: s, d :: t => by
    rw [List.cons_lt_cons_iff, le, lt_iff (s := s)]
    by_cases hcd : c = d
    · simp [hcd]
    · simp only [hcd, false_and, or_false, if_false, decide_eq_true_eq, ne_eq, List.cons.injEq, not_false_eq_true,
        and_true]
      exact Iff.rfl

instance : Std.Total fun s t : Text => le s t = true := ⟨le_total⟩

instance : Std.Antisymm fun s t : Text => le s t = true := ⟨fun _ _ => le_antisymm⟩

instance : IsTrans Text fun s t => le s t = true := ⟨fun _ _ _ => le_trans⟩

end Text
end Licensing
