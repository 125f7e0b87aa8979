import Licensing.Proofs.Number.Rounding
/-!
# The shortest decimal

The decimal that a number is written with is read as that number (`ofDecimal_shortest`).  The search checks this of what
it finds; where it finds nothing, all digits are written, and their value is the number itself.
-/
namespace Licensing.Binary64

variable {m c c' : Nat} {e u u' : Int}

/-! ## Decimals of one value -/

theorem ofDecimal_congr (negative : Bool) (hc : c ≠ 0) (hc' : c' ≠ 0) (h : (c : ℚ) * 10 ^ u = c' * 10 ^ u') :
    ofDecimal negative c u = ofDecimal negative c' u' := by
  rw [ofDecimal_eq_nearest negative hc, ofDecimal_eq_nearest negative hc', h]

theorem nearest_sign {q : ℚ} (h : nearest false q = .finite false m e) (negative : Bool) :
    nearest negative q = .finite negative m e := by
  unfold nearest pack at h ⊢
  simp only at h ⊢
  split_ifs at h ⊢ <;> cases h <;> rfl

/-- A decimal that is not zero and is read as a magnitude. -/
def Reads (m : Nat) (e : Int) (p : Nat × Int) : Prop :=
  p.1 ≠ 0 ∧ nearest false ((p.1 : ℚ) * 10 ^ p.2) = .finite false m e

theorem Reads.ofDecimal_eq {p : Nat × Int} (h : Reads m e p) (negative : Bool) :
    ofDecimal negative p.1 p.2 = .finite negative m e := by
  rw [ofDecimal_eq_nearest negative h.1, nearest_sign h.2]

theorem reads_of_ofDecimal (hm : m ≠ 0) (h : ofDecimal false c u = .finite false m e) : Reads m e (c, u) := by
  have hc : c ≠ 0 := by
    rintro rfl
    cases h
    exact hm rfl
  exact ⟨hc, by rw [← h, ofDecimal_eq_nearest false hc]⟩

/-! ## The search -/

theorem reads_of_search (hm : m ≠ 0) {n d : Nat} {point : Int} : ∀ {fuel places : Nat} {p : Nat × Int},
    search m e n d point places fuel = some p → Reads m e p
  | 0, _, _, h => nomatch h
  | fuel + 1, places, p, h => by
    rw [search] at h
    split at h
    · rename_i c hc
      cases h
      exact reads_of_ofDecimal hm (by simpa using List.find?_some hc)
    · exact reads_of_search hm h

theorem reads_exactDecimal (h : Stored m e) (hm : m ≠ 0) : Reads m e (exactDecimal m e) := by
  have hvalue : (exactDecimal m e).1 ≠ 0 ∧ ((exactDecimal m e).1 : ℚ) * 10 ^ (exactDecimal m e).2 = m * 2 ^ e := by
    unfold exactDecimal
    split_ifs with he
    · obtain ⟨k, rfl⟩ := Int.eq_ofNat_of_zero_le he
      simp [hm]
    · obtain ⟨k, hk⟩ := Int.eq_ofNat_of_zero_le (a := -e) (by omega)
      obtain rfl : e = -(k : Int) := by omega
      refine ⟨by simp [hm], ?_⟩
      have h10 : (10 : ℚ) ^ k = 2 ^ k * 5 ^ k := by rw [← mul_pow]; norm_num
      simp only [neg_neg, Int.toNat_natCast, Nat.pow_eq, Nat.cast_mul, Nat.cast_pow, Nat.cast_ofNat, zpow_neg,
        zpow_natCast, h10]
      field_simp
  exact ⟨hvalue.1, by rw [hvalue.2, nearest_value h hm]⟩

theorem Reads.dropZeros : ∀ (fuel : Nat) {p : Nat × Int}, Reads m e p → Reads m e (dropZeros fuel p)
  | 0, _, h => h
  | fuel + 1, (c, u), h => by
    rw [Binary64.dropZeros]
    split_ifs with hz
    · simp only [Bool.and_eq_true, decide_eq_true_eq] at hz
      obtain ⟨k, rfl⟩ : ∃ k, c = k * 10 := ⟨c / 10, by omega⟩
      refine Reads.dropZeros fuel ⟨by omega, ?_⟩
      rw [← h.2, Nat.mul_div_cancel _ (by decide), Nat.cast_mul, zpow_add₀ (by norm_num), zpow_one]
      congr 1
      push_cast
      ring
    · exact h

theorem reads_shortest (h : Stored m e) (hm : m ≠ 0) : Reads m e (shortest m e) := by
  refine Reads.dropZeros 17 ?_
  cases hs : search m e (ratio m e).1 (ratio m e).2 (pointOf (ratio m e).1 (ratio m e).2) 1 17 with
  | none => exact reads_exactDecimal h hm
  | some p => exact reads_of_search hm hs

/-- **The shortest decimal of a number is read as that number.** -/
theorem ofDecimal_shortest (h : Stored m e) (hm : m ≠ 0) (negative : Bool) :
    ofDecimal negative (shortest m e).1 (shortest m e).2 = .finite negative m e :=
  (reads_shortest h hm).ofDecimal_eq negative

end Licensing.Binary64
