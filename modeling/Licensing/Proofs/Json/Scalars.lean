import Licensing.Json.Reader
import Licensing.Json.Writer
/-!
# Numbers and words in JSON

A word is read back whatever follows it, and an integer unless more of a number follows (`number_ofInt`).
-/
namespace Licensing
namespace Json

/-- The text does not carry on a number that ends in front of it. -/
def EndsNumber (t : Text) : Prop := ∀ c ∈ t.head?, isDigit c = false ∧ c ≠ '.' ∧ c ≠ 'e' ∧ c ≠ 'E'

/-- The text does not carry on a run of digits that ends in front of it. -/
def EndsDigits (t : Text) : Prop := ∀ c ∈ t.head?, isDigit c = false

theorem EndsNumber.endsDigits {t : Text} (h : EndsNumber t) : EndsDigits t := fun c hc => (h c hc).1

/-! ## Integers -/

theorem isDigit_of_mem_ofNat {n : Nat} : ∀ c ∈ Text.ofNat n, isDigit c = true := fun _ hc =>
  Nat.isDigit_of_mem_toDigits (by decide) (by decide) hc

theorem ofNat_eq_cons (n : Nat) : ∃ d ds, Text.ofNat n = d :: ds ∧ isDigit d = true := by
  cases h : Text.ofNat n with
  | nil => exact absurd h Nat.toDigits_ne_nil
  | cons d ds => exact ⟨d, ds, rfl, isDigit_of_mem_ofNat d (h ▸ List.mem_cons_self)⟩

theorem digitsValue_ofNat (n : Nat) : digitsValue (Text.ofNat n) = n := by
  have h := Nat.ofDigitChars_ten_toDigits (n := n)
  rw [Nat.ofDigitChars_eq_foldl] at h
  simp only [Nat.mul_comm] at h
  exact h

theorem head?_ofNat_ne_zero {n : Nat} (hn : 0 < n) : (Text.ofNat n).head? ≠ some '0' := by
  induction n using Nat.strongRecOn with
  | ind n ih =>
    unfold Text.ofNat
    by_cases hlt : n < 10
    · have hd : ∀ d < 10, 0 < d → Nat.digitChar d ≠ '0' := by decide
      rw [Nat.toDigits_of_lt_base hlt]
      simpa using hd n hlt hn
    · have hq := ih (n / 10) (by omega) (by omega)
      rw [Nat.toDigits_of_base_le (by decide) (Nat.le_of_not_lt hlt)]
      unfold Text.ofNat at hq
      cases h : Nat.toDigits 10 (n / 10) with
      | nil => exact absurd h Nat.toDigits_ne_nil
      | cons d ds => rwa [h] at hq

theorem takeWhile_append_of_endsDigits {ds rest : Text} (hds : ∀ c ∈ ds, isDigit c = true) (hr : EndsDigits rest) :
    (ds ++ rest).takeWhile isDigit = ds ∧ (ds ++ rest).dropWhile isDigit = rest := by
  rw [List.takeWhile_append_of_pos hds, List.dropWhile_append_of_pos hds]
  cases rest with
  | nil => simp
  | cons c rest =>
    have hc := hr c rfl
    simp [hc]

/-- Digits without a leading zero are a whole part. -/
theorem wholePart_append {d : Char} {ds rest : Text} (h0 : d ≠ '0') (hds : ∀ c ∈ d :: ds, isDigit c = true)
    (hr : EndsDigits rest) : wholePart (d :: ds ++ rest) = some (d :: ds, rest) := by
  have hsplit := takeWhile_append_of_endsDigits (fun c hc => hds c (List.mem_cons_of_mem d hc)) hr
  rw [List.cons_append, wholePart, if_pos (hds d List.mem_cons_self), hsplit.1, hsplit.2]
  exact h0

theorem wholePart_ofNat (n : Nat) {rest : Text} (hr : EndsDigits rest) :
    wholePart (Text.ofNat n ++ rest) = some (Text.ofNat n, rest) := by
  by_cases hn : n = 0
  · subst hn
    rfl
  · have hz := head?_ofNat_ne_zero (Nat.pos_of_ne_zero hn)
    have hds := isDigit_of_mem_ofNat (n := n)
    obtain ⟨d, ds, h, -⟩ := ofNat_eq_cons n
    rw [h] at hz hds ⊢
    exact wholePart_append (fun h0 => hz (by rw [h0]; rfl)) hds hr

theorem fraction_of_endsNumber {t : Text} (h : EndsNumber t) : fraction t = none := by
  unfold fraction
  split
  · exact absurd rfl (h '.' rfl).2.1
  · rfl

theorem exponent_of_endsNumber {t : Text} (h : EndsNumber t) : exponent t = none := by
  unfold exponent
  split
  · rename_i c t
    have hc := (h c rfl).2.2
    rw [if_neg (by simpa using hc)]
  · rfl

theorem unsigned_ofNat (place : Text) (negative : Bool) (n : Nat) {rest : Text} (hr : EndsNumber rest) :
    unsigned none place negative (Text.ofNat n ++ rest) = .ok (.int (if negative then -(n : Int) else n), rest) := by
  unfold unsigned
  rw [wholePart_ofNat n hr.endsDigits]
  simp only [fraction_of_endsNumber hr, Option.elim_none, exponent_of_endsNumber hr, integer, digitsValue_ofNat]

/-- An integer's numeral begins with a digit, or with a minus sign and a digit. -/
theorem ofInt_eq (n : Int) : ∃ d ds, isDigit d = true ∧ (Text.ofInt n = d :: ds ∨ Text.ofInt n = '-' :: d :: ds) := by
  cases n with
  | ofNat m =>
    obtain ⟨d, ds, h, hd⟩ := ofNat_eq_cons m
    exact ⟨d, ds, hd, Or.inl h⟩
  | negSucc m =>
    obtain ⟨d, ds, h, hd⟩ := ofNat_eq_cons (m + 1)
    exact ⟨d, ds, hd, Or.inr (congrArg _ h)⟩

/-- **An integer is read back from its numeral.** -/
theorem number_ofInt (n : Int) {rest : Text} (hr : EndsNumber rest) :
    number none (Text.ofInt n ++ rest) = .ok (.int n, rest) := by
  cases n with
  | ofNat n =>
    show number none (Text.ofNat n ++ rest) = _
    have hu := unsigned_ofNat (Text.ofNat n ++ rest) false n hr
    unfold number
    split
    · rename_i r hm
      obtain ⟨d, ds, h, hd⟩ := ofNat_eq_cons n
      rw [h] at hm
      obtain ⟨rfl, -⟩ := List.cons.inj hm
      cases hd
    · exact hu
  | negSucc n => exact unsigned_ofNat _ true (n + 1) hr

/-! ## Words -/

theorem word?_digit {d : Char} (hd : isDigit d = true) (t : Text) : word? (d :: t) = none := by
  have h (c : Char) (hc : isDigit c = false) : c ≠ d := by rintro rfl; rw [hd] at hc; cases hc
  simp [word?, words, Text.after?, h 'n' rfl, h 't' rfl, h 'f' rfl, h 'N' rfl, h 'I' rfl, h '-' rfl]

theorem word?_minus {d : Char} (hd : isDigit d = true) (t : Text) : word? ('-' :: d :: t) = none := by
  have h : 'I' ≠ d := by rintro rfl; cases hd
  simp [word?, words, Text.after?, h]

/-- A number or a word is read back as a value from what is written of it, whatever ends it. -/
def ScalarReads (t : Text) (v : Value) : Prop := ∀ rest, EndsNumber rest → scalar none (t ++ rest) = .ok (v, rest)

theorem scalarReads_null : ScalarReads "null".toList .null := fun _ _ => rfl

theorem scalarReads_bool (b : Bool) : ScalarReads (if b then "true".toList else "false".toList) (.bool b) := by
  cases b with
  | false => exact fun _ _ => rfl
  | true => exact fun _ _ => rfl

theorem scalarReads_int (n : Int) : ScalarReads (Text.ofInt n) (.int n) := by
  intro rest hr
  have hw : word? (Text.ofInt n ++ rest) = none := by
    obtain ⟨d, ds, hd, h | h⟩ := ofInt_eq n
    · rw [h]
      exact word?_digit hd _
    · rw [h]
      exact word?_minus hd _
  rw [scalar, hw]
  exact number_ofInt n hr

/-- The characters that begin no scalar. -/
def marks : List Char := ['"', '[', ']', '\x7b', '\x7d', ' ', '\t', '\n', '\r']

theorem scalar_mark {c : Char} (hc : c ∈ marks) (t : Text) :
    scalar none (c :: t) = .error (.expectedValue, c :: t) := by
  simp only [marks, List.mem_cons, List.not_mem_nil, or_false] at hc
  rcases hc with rfl | rfl | rfl | rfl | rfl | rfl | rfl | rfl | rfl <;> rfl

theorem not_mem_marks_of_scalar {c : Char} {t : Text} {p : Value × Text} (h : scalar none (c :: t) = .ok p) :
    c ∉ marks := fun hc => by
  rw [scalar_mark hc] at h
  cases h

end Json
end Licensing
