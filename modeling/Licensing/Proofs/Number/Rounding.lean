import Mathlib.Algebra.Order.Field.Power
import Mathlib.Data.Int.Log
import Mathlib.Data.Rat.Floor
import Mathlib.Tactic.FieldSimp
import Mathlib.Tactic.Linarith
import Mathlib.Tactic.NormNum
import Mathlib.Tactic.Positivity
import Mathlib.Tactic.Ring
import Licensing.Number.Binary64
/-!
# Rounding to binary

What a decimal is read as depends on its value alone (`ofDecimal_eq_nearest`), the shortcuts for very large and very
small ones included.  The unit in which a value is rounded is found from the lengths of the terms of a quotient; it is
the power of two 52 places below the value (`unit_eq`), but none below the least.  A number that is kept in 53 bits is
rounded to itself (`nearest_value`), and every number that comes from rounding is kept so (`stored_of_nearest`).
-/
namespace Licensing.Binary64

variable {n d n' d' : Nat}

/-! ## Quotients -/

theorem roundDiv_mul (n d : Nat) {k : Nat} (hk : 0 < k) : roundDiv (n * k) (d * k) = roundDiv n d := by
  unfold roundDiv
  rw [Nat.mul_mod_mul_right, Nat.mul_div_mul_right _ _ hk, ← Nat.mul_assoc]
  simp only [Nat.mul_lt_mul_right hk]

/-- Quotients of one value are rounded alike. -/
theorem roundDiv_eq_of_cross (hd : 0 < d) (hd' : 0 < d') (h : n * d' = n' * d) : roundDiv n d = roundDiv n' d' := by
  rw [← roundDiv_mul n d hd', h, Nat.mul_comm d d', roundDiv_mul n' d' hd]

theorem roundDiv_eq_of_dvd (m : Nat) (hd : 0 < d) : roundDiv (m * d) d = m := by
  unfold roundDiv
  rw [Nat.mul_mod_left, Nat.mul_div_cancel _ hd, Nat.mul_zero, if_pos hd]

theorem inUnits_pos (hd : 0 < d) (e : Int) : 0 < (inUnits n d e).2 := by
  unfold inUnits
  split_ifs
  · exact Nat.mul_pos hd (Nat.pow_pos (by decide))
  · exact hd

/-- A quotient in units of a power of two is the quotient divided by that power. -/
theorem cast_inUnits (n d : Nat) (e : Int) :
    ((inUnits n d e).1 : ℚ) / (inUnits n d e).2 = (n : ℚ) / d / 2 ^ e := by
  unfold inUnits
  split_ifs with he
  · obtain ⟨k, rfl⟩ := Int.eq_ofNat_of_zero_le he
    simp only [Int.toNat_natCast, Nat.pow_eq, Nat.cast_mul, Nat.cast_pow, Nat.cast_ofNat]
    rw [zpow_natCast, div_div]
  · obtain ⟨k, hk⟩ := Int.eq_ofNat_of_zero_le (a := -e) (by omega)
    obtain rfl : e = -(k : Int) := by omega
    simp only [neg_neg, Int.toNat_natCast, Nat.pow_eq, Nat.cast_mul, Nat.cast_pow, Nat.cast_ofNat]
    rw [zpow_neg, zpow_natCast, div_inv_eq_mul]
    ring

theorem cross_of_cast_div_eq (hd : 0 < d) (hd' : 0 < d') (h : (n : ℚ) / d = (n' : ℚ) / d') : n * d' = n' * d := by
  have hd : (d : ℚ) ≠ 0 := Nat.cast_ne_zero.2 hd.ne'
  have hd' : (d' : ℚ) ≠ 0 := Nat.cast_ne_zero.2 hd'.ne'
  exact_mod_cast (div_eq_div_iff hd hd').1 h

/-! ## The unit -/

/-- The exponent of the unit in which a quotient is rounded. -/
def unit (q : ℚ) : Int := max minExponent (Int.log 2 q - 52)

/-- The lengths of the terms bound a quotient from both sides. -/
theorem two_zpow_log2_le (hn : n ≠ 0) (hd : d ≠ 0) :
    (2 : ℚ) ^ ((n.log2 : Int) - d.log2 - 1) ≤ (n : ℚ) / d ∧ (n : ℚ) / d < 2 ^ ((n.log2 : Int) - d.log2 + 1) := by
  have hn₁ : (2 : ℚ) ^ (n.log2 : Int) ≤ n := by exact_mod_cast Nat.log2_self_le hn
  have hn₂ : (n : ℚ) < 2 ^ ((n.log2 : Int) + 1) := by exact_mod_cast Nat.lt_log2_self
  have hd₁ : (2 : ℚ) ^ (d.log2 : Int) ≤ d := by exact_mod_cast Nat.log2_self_le hd
  have hd₂ : (d : ℚ) < 2 ^ ((d.log2 : Int) + 1) := by exact_mod_cast Nat.lt_log2_self
  have hpos : (0 : ℚ) < d := by exact_mod_cast Nat.pos_of_ne_zero hd
  have h2 : (2 : ℚ) ≠ 0 := two_ne_zero
  constructor
  · rw [le_div_iff₀ hpos]
    calc (2 : ℚ) ^ ((n.log2 : Int) - d.log2 - 1) * d
        ≤ 2 ^ ((n.log2 : Int) - d.log2 - 1) * 2 ^ ((d.log2 : Int) + 1) := by gcongr
      _ = 2 ^ (n.log2 : Int) := by rw [← zpow_add₀ h2]; congr 1; ring
      _ ≤ n := hn₁
  · rw [div_lt_iff₀ hpos]
    calc (n : ℚ) < 2 ^ ((n.log2 : Int) + 1) := hn₂
      _ = 2 ^ ((n.log2 : Int) - d.log2 + 1) * 2 ^ (d.log2 : Int) := by rw [← zpow_add₀ h2]; congr 1; ring
      _ ≤ 2 ^ ((n.log2 : Int) - d.log2 + 1) * d := by gcongr

theorem log_eq_of_le_of_lt {q : ℚ} (hq : 0 < q) {k : Int} (h₁ : (2 : ℚ) ^ k ≤ q) (h₂ : q < 2 ^ (k + 1)) :
    Int.log 2 q = k := by
  have hle := (Int.zpow_le_iff_le_log (b := 2) (by decide) hq).1 (by exact_mod_cast h₁)
  have hlt := (Int.lt_zpow_iff_log_lt (b := 2) (by decide) hq).1 (by exact_mod_cast h₂)
  omega

/-- The guess from the lengths, taken back by one where it is too large, is the unit. -/
theorem unit_eq (hn : n ≠ 0) (hd : d ≠ 0) :
    let guess : Int := n.log2 - d.log2 - 52
    let q := inUnits n d guess
    max minExponent (if q.1 / q.2 < Nat.pow 2 52 then guess - 1 else guess) = unit ((n : ℚ) / d) := by
  intro guess q
  have hd' : 0 < d := Nat.pos_of_ne_zero hd
  have hq : 0 < (n : ℚ) / d := div_pos (by exact_mod_cast Nat.pos_of_ne_zero hn) (by exact_mod_cast hd')
  obtain ⟨hlo, hhi⟩ := two_zpow_log2_le hn hd
  -- the whole part of the quotient in units tells on which side of the next power of two it lies
  have hiff : q.1 / q.2 < Nat.pow 2 52 ↔ (n : ℚ) / d < 2 ^ (guess + 52) := by
    have hpos : (0 : ℚ) < q.2 := by exact_mod_cast inUnits_pos hd' guess
    rw [Nat.div_lt_iff_lt_mul (inUnits_pos hd' guess), ← @Nat.cast_lt ℚ, Nat.cast_mul, ← div_lt_iff₀ hpos,
      cast_inUnits, div_lt_iff₀ (by positivity), zpow_add₀ two_ne_zero, mul_comm]
    norm_num
  unfold unit
  congr 1
  split_ifs with h
  · rw [log_eq_of_le_of_lt hq (k := guess + 51) (by convert hlo using 2; omega) (by convert hiff.1 h using 2; omega)]
    omega
  · have h := not_lt.1 fun hlt => h (hiff.2 hlt)
    rw [log_eq_of_le_of_lt hq (k := guess + 52) h (by convert hhi using 2; omega)]
    omega

/-! ## The nearest number -/

/-- A value rounded to the nearest natural number, a tie to the even one. -/
def roundNat (q : ℚ) : Nat := roundDiv q.num.natAbs q.den

theorem roundNat_div (n : Nat) (hd : 0 < d) : roundNat ((n : ℚ) / d) = roundDiv n d := by
  have hq : (0 : ℚ) ≤ (n : ℚ) / d := by positivity
  refine roundDiv_eq_of_cross (Rat.den_pos _) hd (cross_of_cast_div_eq (Rat.den_pos _) hd ?_)
  rw [Nat.cast_natAbs, abs_of_nonneg (Rat.num_nonneg.2 hq), Rat.num_div_den]

theorem roundNat_natCast (m : Nat) : roundNat m = m := by
  have h := roundNat_div (d := 1) m (by decide)
  rw [Nat.cast_one, div_one] at h
  rw [h]
  simpa using roundDiv_eq_of_dvd m (d := 1) (by decide)

/-- The number nearest to a positive value. -/
def nearest (negative : Bool) (q : ℚ) : Binary64 :=
  let m := roundNat (q / 2 ^ unit q)
  if m = Nat.pow 2 53 then pack negative (Nat.pow 2 52) (unit q + 1) else pack negative m (unit q)

theorem ofRatio_eq_nearest (negative : Bool) (hn : n ≠ 0) (hd : d ≠ 0) :
    ofRatio negative n d = nearest negative ((n : ℚ) / d) := by
  have hd' : 0 < d := Nat.pos_of_ne_zero hd
  have hround : roundDiv (inUnits n d (unit ((n : ℚ) / d))).1 (inUnits n d (unit ((n : ℚ) / d))).2 =
      roundNat ((n : ℚ) / d / 2 ^ unit ((n : ℚ) / d)) := by
    rw [← cast_inUnits, roundNat_div _ (inUnits_pos hd' _)]
  unfold ofRatio nearest
  rw [if_neg hn]
  simp only [unit_eq hn hd, hround]

/-! ## Bounds -/

theorem exists_eq_div {q : ℚ} (hq : 0 ≤ q) : ∃ n d : Nat, 0 < d ∧ q = (n : ℚ) / d := by
  refine ⟨q.num.natAbs, q.den, Rat.den_pos _, ?_⟩
  rw [Nat.cast_natAbs, abs_of_nonneg (Rat.num_nonneg.2 hq), Rat.num_div_den]

theorem le_roundNat {k : Nat} {q : ℚ} (h : (k : ℚ) ≤ q) : k ≤ roundNat q := by
  obtain ⟨n, d, hd, rfl⟩ := exists_eq_div ((Nat.cast_nonneg k).trans h)
  rw [le_div_iff₀ (by exact_mod_cast hd)] at h
  have hk : k ≤ n / d := (Nat.le_div_iff_mul_le hd).2 (by exact_mod_cast h)
  rw [roundNat_div n hd, roundDiv]
  split_ifs <;> omega

theorem roundNat_le {k : Nat} {q : ℚ} (hq : 0 ≤ q) (h : q < k) : roundNat q ≤ k := by
  obtain ⟨n, d, hd, rfl⟩ := exists_eq_div hq
  rw [div_lt_iff₀ (by exact_mod_cast hd)] at h
  have hk : n / d < k := (Nat.div_lt_iff_lt_mul hd).2 (by exact_mod_cast h)
  rw [roundNat_div n hd, roundDiv]
  split_ifs <;> omega

theorem roundNat_of_lt_half {q : ℚ} (hq : 0 ≤ q) (h : q < 1 / 2) : roundNat q = 0 := by
  obtain ⟨n, d, hd, rfl⟩ := exists_eq_div hq
  rw [div_lt_div_iff₀ (by exact_mod_cast hd) (by norm_num)] at h
  have hn : n * 2 < 1 * d := by exact_mod_cast h
  rw [roundNat_div n hd, roundDiv, Nat.mod_eq_of_lt (by omega), if_pos (by omega), Nat.div_eq_of_lt (by omega)]

theorem le_log_iff {q : ℚ} (hq : 0 < q) {k : Int} : k ≤ Int.log 2 q ↔ (2 : ℚ) ^ k ≤ q := by
  have h := Int.zpow_le_iff_le_log (b := 2) (x := k) (by decide) hq
  rw [Nat.cast_ofNat] at h
  exact h.symm

theorem log_lt_iff {q : ℚ} (hq : 0 < q) {k : Int} : Int.log 2 q < k ↔ q < 2 ^ k := by
  have h := Int.lt_zpow_iff_log_lt (b := 2) (x := k) (by decide) hq
  rw [Nat.cast_ofNat] at h
  exact h.symm

theorem nearest_of_large (negative : Bool) {q : ℚ} (h : (2 : ℚ) ^ (1024 : Int) ≤ q) :
    nearest negative q = .infinite negative := by
  have hlog := (le_log_iff ((by positivity : (0 : ℚ) < 2 ^ (1024 : Int)).trans_le h)).2 h
  have hunit : maxExponent < unit q := by
    unfold unit maxExponent
    omega
  simp only [nearest, pack, if_pos hunit, if_pos (hunit.trans (lt_add_one _)), ite_self]

theorem nearest_of_small (negative : Bool) {q : ℚ} (hq : 0 < q) (h : q < (2 : ℚ) ^ (-1075 : Int)) :
    nearest negative q = zero negative := by
  have hlog := (log_lt_iff hq).2 h
  have hunit : unit q = minExponent := by
    unfold unit minExponent
    omega
  have hhalf : q / 2 ^ minExponent < 1 / 2 := by
    rw [div_lt_iff₀ (by positivity)]
    refine h.trans_eq ?_
    rw [minExponent, show (-1075 : Int) = -1 + -1074 from rfl, zpow_add₀ two_ne_zero]
    norm_num
  unfold nearest
  rw [hunit, roundNat_of_lt_half (by positivity) hhalf]
  rfl

/-! ## Decimals -/

theorem ten_pow_length_le (c : Nat) : 10 ^ ((Text.ofNat c).length - 1) ≤ c ∨ c = 0 := by
  by_cases hc : c = 0
  · exact .inr hc
  · left
    by_contra h
    have hlen := (Nat.length_toDigits_le_iff (b := 10) (n := c) (k := (Text.ofNat c).length - 1) (by decide) ?_).2
      (not_le.1 h)
    · have := Nat.length_toDigits_pos (b := 10) (n := c)
      unfold Text.ofNat at *
      omega
    · by_contra h0
      rw [Nat.eq_zero_of_not_pos h0] at h
      omega

theorem lt_ten_pow_length (c : Nat) : c < 10 ^ (Text.ofNat c).length :=
  (Nat.length_toDigits_le_iff (by decide) Nat.length_toDigits_pos).1 le_rfl

theorem two_pow_le_ten_pow : 2 ^ 1075 ≤ 10 ^ 400 := by decide +kernel

/-- **A decimal is read as the number nearest to its value.** -/
theorem ofDecimal_eq_nearest (negative : Bool) {c : Nat} (hc : c ≠ 0) (e : Int) :
    ofDecimal negative c e = nearest negative ((c : ℚ) * 10 ^ e) := by
  have hpos : (0 : ℚ) < c := by exact_mod_cast Nat.pos_of_ne_zero hc
  have hlen : 0 < (Text.ofNat c).length := Nat.length_toDigits_pos
  unfold ofDecimal
  rw [if_neg hc]
  split_ifs with h₁ h₂ h₃
  · refine (nearest_of_large negative ?_).symm
    have hlo : (10 : ℚ) ^ ((Text.ofNat c).length - 1) ≤ c := by exact_mod_cast (ten_pow_length_le c).resolve_right hc
    calc (2 : ℚ) ^ (1024 : Int) ≤ 2 ^ (1075 : Int) := zpow_le_zpow_right₀ (by norm_num) (by norm_num)
      _ ≤ 10 ^ (400 : Int) := by exact_mod_cast two_pow_le_ten_pow
      _ ≤ 10 ^ (((Text.ofNat c).length - 1 : Nat) + e : Int) := zpow_le_zpow_right₀ (by norm_num) (by omega)
      _ = 10 ^ ((Text.ofNat c).length - 1) * 10 ^ e := by rw [zpow_add₀ (by norm_num), zpow_natCast]
      _ ≤ c * 10 ^ e := by gcongr
  · refine (nearest_of_small negative (by positivity) ?_).symm
    have hhi : (c : ℚ) < 10 ^ (Text.ofNat c).length := by exact_mod_cast lt_ten_pow_length c
    calc (c : ℚ) * 10 ^ e < 10 ^ (Text.ofNat c).length * 10 ^ e := by gcongr
      _ = 10 ^ (e + (Text.ofNat c).length) := by rw [zpow_add₀ (by norm_num), zpow_natCast, mul_comm]
      _ ≤ 10 ^ (-400 : Int) := zpow_le_zpow_right₀ (by norm_num) (by omega)
      _ ≤ 2 ^ (-1075 : Int) := by
        rw [zpow_neg, zpow_neg, inv_le_inv₀ (by positivity) (by positivity)]
        exact_mod_cast two_pow_le_ten_pow
  · obtain ⟨k, rfl⟩ := Int.eq_ofNat_of_zero_le h₃
    rw [ofRatio_eq_nearest negative (by simp [hc]) (by decide)]
    congr 1
    simp
  · obtain ⟨k, hk⟩ := Int.eq_ofNat_of_zero_le (a := -e) (by omega)
    obtain rfl : e = -(k : Int) := by omega
    rw [ofRatio_eq_nearest negative hc (by simp)]
    congr 1
    simp [div_eq_mul_inv]

/-! ## Numbers as they are kept -/

/-- A significand and an exponent that a number is kept with: 53 bits, the first of which is there unless the exponent
is the least. -/
structure Stored (m : Nat) (e : Int) : Prop where
  lt : m < 2 ^ 53
  lo : minExponent ≤ e
  hi : e ≤ maxExponent
  lead : 2 ^ 52 ≤ m ∨ e = minExponent

/-- A finite number, kept in the one way. -/
def IsFinite : Binary64 → Prop
  | .finite _ m e => Stored m e
  | _ => False

theorem Stored.unit_eq {m : Nat} {e : Int} (h : Stored m e) (hm : m ≠ 0) : unit ((m : ℚ) * 2 ^ e) = e := by
  have hpos : (0 : ℚ) < m * 2 ^ e := mul_pos (by exact_mod_cast Nat.pos_of_ne_zero hm) (by positivity)
  have hlt : Int.log 2 ((m : ℚ) * 2 ^ e) < 53 + e := by
    rw [log_lt_iff hpos, zpow_add₀ two_ne_zero]
    have : (m : ℚ) < 2 ^ (53 : Int) := by exact_mod_cast h.lt
    gcongr
  have hlo := h.lo
  unfold unit
  rcases h.lead with hlead | rfl
  · have hle : 52 + e ≤ Int.log 2 ((m : ℚ) * 2 ^ e) := by
      rw [le_log_iff hpos, zpow_add₀ two_ne_zero]
      have : (2 : ℚ) ^ (52 : Int) ≤ m := by exact_mod_cast hlead
      gcongr
    omega
  · omega

/-- **A number that is kept is the one nearest to its value.** -/
theorem nearest_value {m : Nat} {e : Int} (h : Stored m e) (hm : m ≠ 0) (negative : Bool) :
    nearest negative ((m : ℚ) * 2 ^ e) = .finite negative m e := by
  have hround : roundNat ((m : ℚ) * 2 ^ e / 2 ^ e) = m := by
    rw [mul_div_cancel_right₀ _ (by positivity), roundNat_natCast]
  have hne : m ≠ Nat.pow 2 53 := h.lt.ne
  simp only [nearest, h.unit_eq hm, hround, if_neg hne, pack, if_neg (not_lt.2 h.hi)]

theorem div_unit_lt {q : ℚ} (hq : 0 < q) : q / 2 ^ unit q < (2 ^ 53 : Nat) := by
  have hlog : Int.log 2 q < 53 + unit q := by
    unfold unit
    omega
  rw [log_lt_iff hq, zpow_add₀ two_ne_zero] at hlog
  rw [div_lt_iff₀ (by positivity)]
  exact_mod_cast hlog

theorem le_div_unit {q : ℚ} (hq : 0 < q) (h : unit q ≠ minExponent) : ((2 ^ 52 : Nat) : ℚ) ≤ q / 2 ^ unit q := by
  have hlog : 52 + unit q ≤ Int.log 2 q := by
    unfold unit at h ⊢
    omega
  rw [le_log_iff hq, zpow_add₀ two_ne_zero] at hlog
  rw [le_div_iff₀ (by positivity)]
  exact_mod_cast hlog

theorem stored_of_pack {negative s : Bool} {m m' : Nat} {e e' : Int} (hm : m < 2 ^ 53) (he : minExponent ≤ e)
    (hlead : 2 ^ 52 ≤ m ∨ e = minExponent) (h : pack negative m e = .finite s m' e') : Stored m' e' := by
  unfold pack at h
  split_ifs at h with hmax
  cases h
  exact ⟨hm, he, not_lt.1 hmax, hlead⟩

/-- What comes from rounding is kept in the one way. -/
theorem stored_of_nearest {negative s : Bool} {q : ℚ} (hq : 0 < q) {m : Nat} {e : Int}
    (h : nearest negative q = .finite s m e) : Stored m e := by
  have hlo : minExponent ≤ unit q := le_max_left _ _
  have hle : roundNat (q / 2 ^ unit q) ≤ 2 ^ 53 := roundNat_le (by positivity) (div_unit_lt hq)
  unfold nearest at h
  simp only at h
  split_ifs at h with hm
  · exact stored_of_pack (by decide) (by omega) (.inl le_rfl) h
  · refine stored_of_pack (lt_of_le_of_ne hle hm) hlo ?_ h
    by_cases hu : unit q = minExponent
    · exact .inr hu
    · exact .inl (le_roundNat (le_div_unit hq hu))

theorem stored_zero : Stored 0 minExponent := ⟨by decide, le_rfl, by decide, .inr rfl⟩

/-- **What is read of a decimal is kept in the one way**, unless it is infinite. -/
theorem stored_of_ofDecimal {negative s : Bool} {c m : Nat} {e e' : Int}
    (h : ofDecimal negative c e = .finite s m e') : Stored m e' := by
  by_cases hc : c = 0
  · rw [ofDecimal, if_pos hc] at h
    cases h
    exact stored_zero
  · rw [ofDecimal_eq_nearest negative hc] at h
    exact stored_of_nearest (mul_pos (by exact_mod_cast Nat.pos_of_ne_zero hc) (by positivity)) h

end Licensing.Binary64
