import Licensing.Text
/-!
# Cutting texts

Each cut of a text, said as an equation between the text and its parts: the rest behind a lead, the part before a tail,
and the two sides of the first separator.
-/
namespace Licensing
namespace Text

theorem after?_append : ∀ (lead t : Text), after? lead (lead ++ t) = some t
  | [], _ => rfl
  | c :: lead, t => by
    rw [List.cons_append, after?, if_pos rfl]
    exact after?_append lead t

theorem after?_eq_some_iff : ∀ {lead t r : Text}, after? lead t = some r ↔ t = lead ++ r
  | [], t, r => by simp [after?]
  | _ :: _, [], r => by simp [after?]
  | c :: lead, d :: t, r => by
    rw [after?, List.cons_append, List.cons.injEq]
    split
    · rename_i h
      rw [after?_eq_some_iff]
      exact ⟨fun ht => ⟨h.symm, ht⟩, fun ht => ht.2⟩
    · rename_i h
      exact ⟨fun ht => (by cases ht), fun ht => absurd ht.1.symm h⟩

theorem before?_eq_some_iff {tail t r : Text} : before? tail t = some r ↔ t = r ++ tail := by
  unfold before?
  rw [Option.map_eq_some_iff]
  constructor
  · rintro ⟨s, hs, rfl⟩
    have ht : t.reverse = tail.reverse ++ s := after?_eq_some_iff.1 hs
    rw [← List.reverse_reverse t, ht, List.reverse_append, List.reverse_reverse]
  · rintro rfl
    refine ⟨r.reverse, ?_, List.reverse_reverse r⟩
    rw [List.reverse_append]
    exact after?_append _ _

/-- No cut is made in front of the first character of the needle. -/
theorem cut?_append {c : Char} {a : Text} (h : c ∉ a) (l t : Text) :
    cut? (c :: l) (a ++ t) = (cut? (c :: l) t).map fun p => (a ++ p.1, p.2) := by
  induction a with
  | nil => exact (Option.map_id' ..).symm
  | cons d a ih =>
    have hd : c ≠ d := List.ne_of_not_mem_cons h
    have ha : c ∉ a := List.not_mem_of_not_mem_cons h
    rw [List.cons_append, cut?, after?, if_neg hd, ih ha, Option.map_map]
    rfl

/-- **A cut at one character is at its first occurrence.** -/
theorem cut?_singleton_eq_some_iff {sep : Char} : ∀ {t a b : Text},
    cut? [sep] t = some (a, b) ↔ t = a ++ sep :: b ∧ sep ∉ a
  | [], a, b => by simp [cut?, after?]
  | c :: t, a, b => by
    by_cases h : sep = c
    · subst h
      simp only [cut?, after?, if_true, Option.some.injEq, Prod.mk.injEq]
      constructor
      · rintro ⟨rfl, rfl⟩
        exact ⟨rfl, List.not_mem_nil⟩
      · rintro ⟨ht, ha⟩
        cases a with
        | nil =>
          rw [List.nil_append, List.cons.injEq] at ht
          exact ⟨rfl, ht.2⟩
        | cons d a =>
          rw [List.cons_append, List.cons.injEq] at ht
          exact absurd (ht.1 ▸ List.mem_cons_self) ha
    · simp only [cut?, after?, h, if_false, Option.map_eq_some_iff, Prod.mk.injEq]
      constructor
      · rintro ⟨⟨u, v⟩, huv, rfl, rfl⟩
        obtain ⟨rfl, hu⟩ := cut?_singleton_eq_some_iff.1 huv
        refine ⟨rfl, ?_⟩
        simp only [List.mem_cons, h, hu, or_self, not_false_eq_true]
      · rintro ⟨ht, ha⟩
        cases a with
        | nil =>
          rw [List.nil_append, List.cons.injEq] at ht
          exact absurd ht.1.symm h
        | cons d a =>
          rw [List.cons_append, List.cons.injEq] at ht
          obtain ⟨rfl, rfl⟩ := ht
          exact ⟨(a, b), cut?_singleton_eq_some_iff.2 ⟨rfl, fun hm => ha (List.mem_cons_of_mem _ hm)⟩, rfl, rfl⟩

theorem cut?_singleton_eq_none_iff {sep : Char} {t : Text} : cut? [sep] t = none ↔ sep ∉ t := by
  constructor
  · intro h hm
    obtain ⟨a, b, ht, ha⟩ := List.eq_append_cons_of_mem hm
    rw [cut?_singleton_eq_some_iff.2 ⟨ht, ha⟩] at h
    cases h
  · intro h
    refine Option.eq_none_iff_forall_ne_some.2 fun p hp => ?_
    obtain ⟨rfl, -⟩ := cut?_singleton_eq_some_iff.1 hp
    exact h (List.mem_append_right _ List.mem_cons_self)

theorem after?_eq_none_iff {lead t : Text} : after? lead t = none ↔ ¬ lead <+: t := by
  rw [Option.eq_none_iff_forall_ne_some]
  constructor
  · rintro h ⟨r, rfl⟩
    exact h r (after?_append lead r)
  · rintro h r hr
    exact h ⟨r, (after?_eq_some_iff.1 hr).symm⟩

end Text
end Licensing
