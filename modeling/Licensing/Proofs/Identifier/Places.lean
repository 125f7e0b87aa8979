import Licensing.Proofs.Identifier.Forms
/-!
# Where an identifier is refused

The error of a check stands inside the text that was checked or at its end, also where the fault lies in a part of a
reference and was found by a check of that part alone.  A check is given the whole of its text, so no error of it asks
for more input.
-/
namespace Licensing

/-- The error stands at an offset up to `n`, and it does not ask for more input. -/
structure ParseError.PointsUpTo (n : Nat) (e : ParseError) : Prop where
  position : ∃ k : Nat, k ≤ n ∧ e.position = k
  kind_ne : e.kind ≠ .endOfInput

namespace ParseError

theorem PointsUpTo.mono {m n : Nat} {e : ParseError} (h : e.PointsUpTo m) (hmn : m ≤ n) : e.PointsUpTo n := by
  obtain ⟨k, hk, hp⟩ := h.position
  exact ⟨⟨k, Nat.le_trans hk hmn, hp⟩, h.kind_ne⟩

/-- An error of a part that begins at an offset of a larger text stands in that part. -/
theorem PointsUpTo.relocate {n : Nat} {e : ParseError} (h : e.PointsUpTo n) (whole : Text) (offset : Nat) :
    (e.relocate whole offset).PointsUpTo (offset + n) := by
  obtain ⟨k, hk, hp⟩ := h.position
  refine ⟨⟨offset + k, by omega, ?_⟩, h.kind_ne⟩
  rw [ParseError.relocate, of, hp, Int.natCast_add]

end ParseError

namespace Identifier

variable {α β : Type}

/-- Every error of a check stands at an offset of its text, the end included, and is not for want of input. -/
def PointsInside (check : Text → Except ParseError α) : Prop :=
  ∀ ⦃t : Text⦄ ⦃e : ParseError⦄, check t = .error e → e.PointsUpTo t.length

theorem PointsInside.map {check : Text → Except ParseError α} (h : PointsInside check) (f : α → β) :
    PointsInside fun t => (check t).map f :=
  fun _ _ he => h (map_eq_error_iff.1 he)

/-! ## References -/

theorem firstIllegal?_lt : ∀ {k j : Nat} {c : Char} {t : Text}, firstIllegal? k t = some (j, c) → j < k + t.length
  | _, _, _, [], h => nomatch h
  | k, j, c, d :: t, h => by
    rw [firstIllegal?] at h
    split at h
    · have := firstIllegal?_lt h
      rw [List.length_cons]
      omega
    · obtain ⟨rfl, -⟩ := Prod.mk.inj (Option.some.inj h)
      rw [List.length_cons]
      omega

theorem pointsInside_idString : PointsInside idString := by
  intro t e h
  unfold idString at h
  split at h
  · obtain rfl := Except.error.inj h
    exact ⟨⟨0, Nat.zero_le _, rfl⟩, nofun⟩
  · split at h
    · rename_i k c hk
      obtain rfl := Except.error.inj h
      have := firstIllegal?_lt hk
      exact ⟨⟨k, by omega, rfl⟩, nofun⟩
    · cases h

theorem pointsUpTo_of_idStringAt {whole t : Text} {offset : Nat} {e : ParseError}
    (h : idStringAt whole offset t = .error e) : e.PointsUpTo (offset + t.length) := by
  unfold idStringAt at h
  cases hid : idString t with
  | ok r =>
    rw [hid] at h
    cases h
  | error f =>
    rw [hid, mapError_error] at h
    obtain rfl := Except.error.inj h
    exact (pointsInside_idString hid).relocate whole offset

theorem pointsUpTo_of_licenseRefFrom {whole t : Text} {d : Option Text} {offset : Nat} {e : ParseError}
    (h : licenseRefFrom whole d offset t = .error e) : e.PointsUpTo (offset + t.length) := by
  unfold licenseRefFrom at h
  split at h
  · obtain rfl := Except.error.inj h
    exact ⟨⟨offset, Nat.le_add_right _ _, rfl⟩, nofun⟩
  · rename_i name hname
    obtain rfl := Text.after?_eq_some_iff.1 hname
    refine (pointsUpTo_of_idStringAt (bind_pure_eq_error_iff.1 h)).mono ?_
    rw [List.length_append]
    omega

theorem pointsInside_licenseRef : PointsInside licenseRef := by
  intro t e h
  unfold licenseRef at h
  split at h
  · simpa using pointsUpTo_of_licenseRefFrom h
  · rename_i r hr
    obtain rfl := Text.after?_eq_some_iff.1 hr
    split at h
    · obtain rfl := Except.error.inj h
      exact ⟨⟨_, Nat.le_refl _, rfl⟩, nofun⟩
    · rename_i document r' hcut
      obtain ⟨rfl, -⟩ := Text.cut?_singleton_eq_some_iff.1 hcut
      simp only [List.length_append, List.length_cons]
      rcases bind_eq_error_iff.1 h with hd | ⟨d, hd, hn⟩
      · exact (pointsUpTo_of_idStringAt hd).mono (by omega)
      · obtain ⟨rfl, -⟩ := idStringAt_eq_ok_iff.1 hd
        exact (pointsUpTo_of_licenseRefFrom hn).mono (by omega)

/-! ## Names of the registry -/

theorem pointsInside_licenseName : PointsInside licenseName := by
  intro t e h
  unfold licenseName at h
  split at h
  · cases h
  · obtain rfl := Except.error.inj h
    exact ⟨⟨0, Nat.zero_le _, rfl⟩, nofun⟩

theorem pointsInside_licenseId : PointsInside licenseId := pointsInside_licenseName.map _

theorem pointsInside_licenseIdAndPlus : PointsInside licenseIdAndPlus := by
  intro t e h
  unfold licenseIdAndPlus at h
  split at h
  · obtain rfl := Except.error.inj h
    exact ⟨⟨_, Nat.le_refl _, rfl⟩, nofun⟩
  · rename_i n hn
    refine (pointsInside_licenseName (map_eq_error_iff.1 h)).mono ?_
    rw [Text.before?_eq_some_iff.1 hn, List.length_append]
    exact Nat.le_add_right _ _

theorem pointsInside_exceptionId : PointsInside exceptionId := by
  intro t e h
  unfold exceptionId at h
  split at h
  · cases h
  · obtain rfl := Except.error.inj h
    exact ⟨⟨0, Nat.zero_le _, rfl⟩, nofun⟩

end Identifier
end Licensing
