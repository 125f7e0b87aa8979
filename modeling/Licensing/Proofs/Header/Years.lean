import Mathlib.Algebra.Group.Nat.Defs
import Mathlib.Data.List.Induction
import Licensing.Header
/-!
# The year of a statement

The year is the value of the first run of exactly four digits (`year?_eq_some_iff`).  Longer and shorter runs are passed
over as wholes, whatever stands between them.
-/
namespace Licensing
namespace Header

open Text (isDigit digitValue? digitsValue)

/-- A run of digits that goes on neither to the left nor to the right. -/
structure IsRun (t a run b : Text) : Prop where
  eq : t = a ++ (run ++ b)
  digits : ∀ c ∈ run, isDigit c = true
  ne_nil : run ≠ []
  before : ∀ c, a.getLast? = some c → isDigit c = false
  behind : ∀ c, b.head? = some c → isDigit c = false

/-- A run of exactly four digits behind `a` has the value `y`. -/
def YearAt (t a : Text) (y : Nat) : Prop := ∃ run b, IsRun t a run b ∧ run.length = 4 ∧ digitsValue run = y

def FirstYear (t : Text) (y : Nat) : Prop := ∃ a, YearAt t a y ∧ ∀ a' y', YearAt t a' y' → a.length ≤ a'.length

/-! ## Runs -/

theorem takeWhile_run {run b : Text} (hrun : ∀ c ∈ run, isDigit c = true)
    (hb : ∀ c, b.head? = some c → isDigit c = false) : (run ++ b).takeWhile isDigit = run := by
  rw [List.takeWhile_append_of_pos hrun]
  cases b with
  | nil => simp
  | cons c b => simp [hb c rfl]

theorem isRun_front {run b : Text} (hrun : ∀ c ∈ run, isDigit c = true) (hne : run ≠ [])
    (hb : ∀ c, b.head? = some c → isDigit c = false) : IsRun (run ++ b) [] run b :=
  ⟨rfl, hrun, hne, by simp, hb⟩

/-- **A run is the digits at the front, or it lies behind them.** -/
theorem IsRun.front_or_behind {run u a r b : Text} (h : IsRun (run ++ u) a r b) (hrun : ∀ c ∈ run, isDigit c = true)
    (hu : ∀ c, u.head? = some c → isDigit c = false) :
    (a = [] ∧ r = run) ∨ ∃ a', a = run ++ a' ∧ u = a' ++ (r ++ b) := by
  rcases List.append_eq_append_iff.1 h.eq with ⟨a', ha, hu'⟩ | ⟨s, hrun', hs⟩
  · exact .inr ⟨a', ha, hu'⟩
  · left
    -- a run does not begin behind another digit
    have ha : a = [] := by
      rcases List.eq_nil_or_concat a with ha | ⟨t, c, ha⟩
      · exact ha
      · rw [List.concat_eq_append] at ha
        have hc : isDigit c = true := hrun c (by simp [hrun', ha])
        exact absurd (h.before c (by simp [ha])) (by simp [hc])
    subst ha
    obtain rfl : run = s := hrun'
    refine ⟨rfl, ?_⟩
    rw [← takeWhile_run h.digits h.behind, hs, takeWhile_run hrun hu]

theorem IsRun.exists_cons {t a r b : Text} (h : IsRun t a r b) : ∃ c s, r ++ b = c :: s ∧ isDigit c = true := by
  obtain ⟨c, s, rfl⟩ := List.exists_cons_of_ne_nil h.ne_nil
  exact ⟨c, s ++ b, rfl, h.digits c List.mem_cons_self⟩

/-- Behind a character that is no digit, runs are what they would be at the front of a text. -/
theorem isRun_behind_iff {s t a r b : Text} {c : Char} (hc : isDigit c = false) :
    IsRun (s ++ c :: t) (s ++ c :: a) r b ↔ IsRun t a r b := by
  have hlast : (∀ d, (s ++ c :: a).getLast? = some d → isDigit d = false) ↔
      ∀ d, a.getLast? = some d → isDigit d = false := by
    cases ha : a.getLast? <;> simp [List.getLast?_cons, ha, hc]
  constructor
  · rintro ⟨heq, hdigits, hne, hbefore, hbehind⟩
    rw [List.append_assoc, List.append_cancel_left_eq, List.cons_append, List.cons.injEq] at heq
    exact ⟨heq.2, hdigits, hne, hlast.1 hbefore, hbehind⟩
  · rintro ⟨rfl, hdigits, hne, hbefore, hbehind⟩
    exact ⟨by simp, hdigits, hne, hlast.2 hbefore, hbehind⟩

/-! ## The first year -/

/-- Four digits at the front are the year. -/
theorem firstYear_front_iff {run u : Text} (hrun : ∀ c ∈ run, isDigit c = true) (hlen : run.length = 4)
    (hu : ∀ c, u.head? = some c → isDigit c = false) {y : Nat} : FirstYear (run ++ u) y ↔ digitsValue run = y := by
  have hne : run ≠ [] := List.ne_nil_of_length_pos (by omega)
  have hfront : YearAt (run ++ u) [] (digitsValue run) := ⟨run, u, isRun_front hrun hne hu, hlen, rfl⟩
  constructor
  · rintro ⟨a, ⟨r, b, hr, -, rfl⟩, hfirst⟩
    have ha : a = [] := List.eq_nil_of_length_eq_zero (Nat.le_zero.1 (hfirst [] _ hfront))
    rcases hr.front_or_behind hrun hu with ⟨-, rfl⟩ | ⟨a', ha', -⟩
    · rfl
    · exact absurd (List.append_eq_nil_iff.1 (ha'.symm.trans ha)).1 hne
  · rintro rfl
    exact ⟨[], hfront, fun _ _ _ => Nat.zero_le _⟩

/-- Any other number of digits at the front is passed over, with the character that ends them. -/
theorem yearAt_behind_iff {run t a : Text} {c : Char} {y : Nat} (hrun : ∀ c ∈ run, isDigit c = true)
    (hlen : run.length ≠ 4) (hc : isDigit c = false) :
    YearAt (run ++ c :: t) a y ↔ ∃ a', a = run ++ c :: a' ∧ YearAt t a' y := by
  have hu : ∀ d, (c :: t).head? = some d → isDigit d = false := fun d hd => Option.some.inj hd ▸ hc
  constructor
  · rintro ⟨r, b, hr, hlen', hy⟩
    rcases hr.front_or_behind hrun hu with ⟨-, rfl⟩ | ⟨a', rfl, ha'⟩
    · exact absurd hlen' hlen
    · cases a' with
      | nil =>
        obtain ⟨d, s, hd, hdigit⟩ := hr.exists_cons
        obtain ⟨rfl, -⟩ := List.cons.inj (ha'.trans hd)
        exact absurd hc (by simp [hdigit])
      | cons d a' =>
        obtain ⟨rfl, -⟩ := List.cons.inj ha'
        exact ⟨a', rfl, r, b, (isRun_behind_iff hc).1 hr, hlen', hy⟩
  · rintro ⟨a', rfl, r, b, hr, hlen', hy⟩
    exact ⟨r, b, (isRun_behind_iff hc).2 hr, hlen', hy⟩

theorem firstYear_behind_iff {run t : Text} {c : Char} {y : Nat} (hrun : ∀ c ∈ run, isDigit c = true)
    (hlen : run.length ≠ 4) (hc : isDigit c = false) : FirstYear (run ++ c :: t) y ↔ FirstYear t y := by
  unfold FirstYear
  simp only [yearAt_behind_iff hrun hlen hc]
  constructor
  · rintro ⟨_, ⟨a, rfl, hy⟩, hfirst⟩
    refine ⟨a, hy, fun a' y' hy' => ?_⟩
    have hle := hfirst _ y' ⟨a', rfl, hy'⟩
    rw [List.length_append, List.length_append, List.length_cons, List.length_cons] at hle
    omega
  · rintro ⟨a, hy, hfirst⟩
    refine ⟨_, ⟨a, rfl, hy⟩, ?_⟩
    rintro _ y' ⟨a', rfl, hy'⟩
    have hle := hfirst a' y' hy'
    rw [List.length_append, List.length_append, List.length_cons, List.length_cons]
    omega

theorem not_firstYear_of_digits {run : Text} (hrun : ∀ c ∈ run, isDigit c = true) (hlen : run.length ≠ 4) {y : Nat} :
    ¬ FirstYear run y := by
  rintro ⟨a, ⟨r, b, hr, hlen', -⟩, -⟩
  have hr' : IsRun (run ++ []) a r b := by rwa [List.append_nil]
  rcases hr'.front_or_behind hrun (by simp) with ⟨-, rfl⟩ | ⟨a', -, ha'⟩
  · exact hlen hlen'
  · exact hr.ne_nil (List.append_eq_nil_iff.1 (List.append_eq_nil_iff.1 ha'.symm).2).1

/-- By induction on the text: the digits just before it are at the front of what is looked at. -/
theorem yearFrom_eq_some_iff {y : Nat} : ∀ {run t : Text}, (∀ c ∈ run, isDigit c = true) →
    (yearFrom run t = some y ↔ FirstYear (run ++ t) y)
  | run, [], hrun => by
    rw [yearFrom, runYear?]
    by_cases hlen : run.length = 4
    · rw [if_pos hlen, firstYear_front_iff hrun hlen (by simp), Option.some.injEq]
    · rw [if_neg hlen, List.append_nil]
      exact iff_of_false (Option.some_ne_none y).symm (not_firstYear_of_digits hrun hlen)
  | run, c :: t, hrun => by
    rw [yearFrom]
    by_cases hc : isDigit c = true
    · have hrun' : ∀ d ∈ run ++ [c], isDigit d = true := by
        simp only [List.forall_mem_append, List.forall_mem_singleton]
        exact ⟨hrun, hc⟩
      rw [if_pos hc, yearFrom_eq_some_iff hrun', List.append_assoc, List.singleton_append]
    · have hc' : isDigit c = false := by simpa using hc
      rw [if_neg hc, runYear?]
      by_cases hlen : run.length = 4
      · have hu : ∀ d, (c :: t).head? = some d → isDigit d = false := fun d hd => Option.some.inj hd ▸ hc'
        rw [if_pos hlen, firstYear_front_iff hrun hlen hu]
        exact Option.some_inj
      · rw [if_neg hlen, firstYear_behind_iff hrun hlen hc']
        exact @yearFrom_eq_some_iff _ [] _ (List.forall_mem_nil _)

/-- **The year of a text is the value of its first run of exactly four digits.** -/
theorem year?_eq_some_iff {t : Text} {y : Nat} : year? t = some y ↔ FirstYear t y :=
  @yearFrom_eq_some_iff _ [] _ (List.forall_mem_nil _)

/-! ## The value of a year -/

theorem digitValue_lt {c : Char} {v : Nat} (h : digitValue? c = some v) : v < 10 := by
  obtain ⟨z, hz, rfl⟩ := Option.map_eq_some_iff.1 h
  have hbounds := List.find?_some hz
  simp only [Bool.and_eq_true, decide_eq_true_eq] at hbounds
  omega

theorem digitsValue_append_singleton (run : Text) (c : Char) :
    digitsValue (run ++ [c]) = digitsValue run * 10 + (digitValue? c).getD 0 := by
  rw [digitsValue, List.foldl_append]
  rfl

theorem digitsValue_lt (run : Text) : digitsValue run < 10 ^ run.length := by
  induction run using List.reverseRecOn with
  | nil => decide
  | append_singleton run c ih =>
    have hc : (digitValue? c).getD 0 < 10 := by
      cases h : digitValue? c with
      | none => decide
      | some v => exact digitValue_lt h
    rw [digitsValue_append_singleton, List.length_append, List.length_singleton, Nat.pow_succ]
    omega

theorem FirstYear.le {t : Text} {y : Nat} (h : FirstYear t y) : y ≤ 9999 := by
  obtain ⟨a, ⟨run, b, -, hlen, rfl⟩, -⟩ := h
  have hlt := digitsValue_lt run
  rw [hlen] at hlt
  omega

end Header
end Licensing
