import Licensing.Text
/-!
# Pieces between separators

A separator parts the pieces of a text, and joining pieces without separators undoes the split.
-/
namespace Licensing
namespace Text

theorem splitAt_ne_nil (sep : Char) : ∀ t : Text, splitAt sep t ≠ []
  | [] => by simp [splitAt]
  | c :: t => by
    unfold splitAt
    split
    · simp
    · split <;> simp

/-- **The pieces on either side of a separator do not mix.** -/
theorem splitAt_append (sep : Char) (s t : Text) : splitAt sep (s ++ sep :: t) = splitAt sep s ++ splitAt sep t := by
  induction s with
  | nil => simp [splitAt]
  | cons c s ih =>
    by_cases hc : c = sep
    · simp [splitAt, hc, ih]
    · obtain ⟨p, ps, hp⟩ := List.exists_cons_of_ne_nil (splitAt_ne_nil sep s)
      simp [splitAt, hc, ih, hp]

theorem splitAt_of_not_mem {sep : Char} {t : Text} (h : sep ∉ t) : splitAt sep t = [t] := by
  induction t with
  | nil => rfl
  | cons c t ih =>
    have hc : c ≠ sep := fun hc => h (hc ▸ List.mem_cons_self)
    have ht : sep ∉ t := fun ht => h (List.mem_cons_of_mem c ht)
    simp [splitAt, hc, ih ht]

theorem not_mem_of_mem_splitAt {sep : Char} {t : Text} : ∀ p ∈ splitAt sep t, sep ∉ p := by
  induction t with
  | nil => simp [splitAt]
  | cons c t ih =>
    by_cases hc : c = sep
    · simpa [splitAt, hc] using ih
    · obtain ⟨p, ps, hp⟩ := List.exists_cons_of_ne_nil (splitAt_ne_nil sep t)
      rw [hp, List.forall_mem_cons] at ih
      simpa [splitAt, hc, hp, Ne.symm hc] using ih

theorem join_cons_cons (sep p q : Text) (ps : List Text) :
    join sep (p :: q :: ps) = p ++ sep ++ join sep (q :: ps) := by
  simp [join, List.intercalate_cons_cons]

/-- **Joined pieces are the pieces of the text.** -/
theorem splitAt_join {sep : Char} : ∀ {ps : List Text}, ps ≠ [] → (∀ p ∈ ps, sep ∉ p) → splitAt sep (join [sep] ps) = ps
  | [], h, _ => absurd rfl h
  | [p], _, h => by
    rw [join, List.intercalate_singleton]
    exact splitAt_of_not_mem (h p List.mem_cons_self)
  | p :: q :: ps, _, h => by
    obtain ⟨hp, hps⟩ := List.forall_mem_cons.1 h
    rw [join_cons_cons, List.append_assoc, List.singleton_append, splitAt_append, splitAt_of_not_mem hp,
      splitAt_join (List.cons_ne_nil q ps) hps, List.singleton_append]

end Text
end Licensing
