import Licensing.Proofs.Json.Scalars
import Licensing.Proofs.Number.Shortest
/-!
# Numerals with a fraction or an exponent

A finite number is read back from its numeral (`scalarReads_float`): wherever the point stands and whether or not there
is an exponent, the numeral has the value of the digits that are written.
-/
namespace Licensing
namespace Json

open Binary64 (IsFinite Stored layout magnitude ofDecimal zeros)

/-! ## The value of digits -/

theorem digitsValue_eq (ds : Text) : digitsValue ds = Nat.ofDigitChars 10 ds 0 := by
  rw [Nat.ofDigitChars_eq_foldl]
  simp only [Nat.mul_comm 10]
  rfl

theorem digitsValue_append (ds fs : Text) :
    digitsValue (ds ++ fs) = 10 ^ fs.length * digitsValue ds + digitsValue fs := by
  simp only [digitsValue_eq, Nat.ofDigitChars_append]
  exact Nat.ofDigitChars_eq_ofDigitChars_zero

@[simp]
theorem digitsValue_zeros (k : Nat) : digitsValue (zeros k) = 0 := by
  rw [digitsValue_eq, zeros, Nat.ofDigitChars_replicate_zero, Nat.mul_zero]

theorem digitsValue_zeros_append (k : Nat) (ds : Text) : digitsValue (zeros k ++ ds) = digitsValue ds := by
  rw [digitsValue_append, digitsValue_zeros, Nat.mul_zero, Nat.zero_add]

theorem isDigit_of_mem_zeros {k : Nat} : ∀ c ∈ zeros k, isDigit c = true := fun c hc => by
  rw [List.eq_of_mem_replicate hc]
  rfl

theorem isDigit_of_mem_append {ds fs : Text} (hds : ∀ c ∈ ds, isDigit c = true) (hfs : ∀ c ∈ fs, isDigit c = true) :
    ∀ c ∈ ds ++ fs, isDigit c = true := fun c hc => (List.mem_append.1 hc).elim (hds c) (hfs c)

/-! ## Fractions and exponents -/

theorem fraction_append {fs rest : Text} (hne : fs ≠ []) (hfs : ∀ c ∈ fs, isDigit c = true) (hr : EndsDigits rest) :
    fraction ('.' :: (fs ++ rest)) = some (fs, rest) := by
  have hsplit := takeWhile_append_of_endsDigits hfs hr
  obtain ⟨f, gs, rfl⟩ := List.exists_cons_of_ne_nil hne
  have hf := hfs f List.mem_cons_self
  rw [fraction, if_pos (by simpa using hf), hsplit.1, hsplit.2]

theorem exponent_append {ps rest : Text} (hne : ps ≠ []) (hps : ∀ c ∈ ps, isDigit c = true) (hr : EndsDigits rest)
    (minus : Bool) :
    exponent ('e' :: (if minus then '-' else '+') :: (ps ++ rest)) =
      some (if minus then -(digitsValue ps : Int) else digitsValue ps, rest) := by
  have hsplit := takeWhile_append_of_endsDigits hps hr
  have hhead : (ps ++ rest).head?.any isDigit = true := by
    obtain ⟨p, qs, rfl⟩ := List.exists_cons_of_ne_nil hne
    simpa using hps p List.mem_cons_self
  cases minus with
  | false => simp only [exponent, exponentSign, Bool.false_eq_true, if_false, hhead, if_true, hsplit, decide_true,
      Bool.true_or]
  | true => simp only [exponent, exponentSign, if_true, hhead, hsplit, decide_true, Bool.true_or]

/-- An exponent as it is written, with its sign. -/
def power (x : Int) : Text :=
  'e' :: (if x < 0 then '-' else '+') :: (zeros (2 - (Text.ofNat x.natAbs).length) ++ Text.ofNat x.natAbs)

theorem exponent_power (x : Int) {rest : Text} (hr : EndsDigits rest) :
    exponent (power x ++ rest) = some (x, rest) := by
  have hne : zeros (2 - (Text.ofNat x.natAbs).length) ++ Text.ofNat x.natAbs ≠ [] :=
    List.append_ne_nil_of_right_ne_nil _ Nat.toDigits_ne_nil
  have h := exponent_append hne (isDigit_of_mem_append isDigit_of_mem_zeros isDigit_of_mem_ofNat) hr (decide (x < 0))
  rw [digitsValue_zeros_append, digitsValue_ofNat] at h
  simp only [decide_eq_true_eq] at h
  rw [power, List.cons_append, List.cons_append, h]
  congr 2
  split_ifs <;> omega

theorem endsDigits_power (x : Int) (rest : Text) : EndsDigits (power x ++ rest) := by
  rintro c hc
  cases hc
  rfl

theorem fraction_power (x : Int) (rest : Text) : fraction (power x ++ rest) = none := rfl

variable {place t ds fs rest : Text} {negative : Bool} {x : Int}

theorem unsigned_of_fraction (hw : wholePart t = some (ds, '.' :: (fs ++ rest))) (hne : fs ≠ [])
    (hfs : ∀ c ∈ fs, isDigit c = true) (hr : EndsNumber rest) :
    unsigned none place negative t = .ok (.float (ofDecimal negative (digitsValue (ds ++ fs)) (-fs.length)), rest) := by
  unfold unsigned
  rw [hw]
  simp only [fraction_append hne hfs hr.endsDigits, Option.elim_some, exponent_of_endsNumber hr, Option.elim_none,
    Int.zero_sub]

theorem unsigned_of_power (hw : wholePart t = some (ds, power x ++ rest)) (hr : EndsNumber rest) :
    unsigned none place negative t = .ok (.float (ofDecimal negative (digitsValue ds) x), rest) := by
  unfold unsigned
  rw [hw]
  simp only [fraction_power, Option.elim_none, exponent_power x hr.endsDigits, Option.elim_some, List.append_nil,
    List.length_nil, Nat.cast_zero, Int.sub_zero]

theorem unsigned_of_fraction_power (hw : wholePart t = some (ds, '.' :: (fs ++ (power x ++ rest)))) (hne : fs ≠ [])
    (hfs : ∀ c ∈ fs, isDigit c = true) (hr : EndsNumber rest) :
    unsigned none place negative t =
      .ok (.float (ofDecimal negative (digitsValue (ds ++ fs)) (x - fs.length)), rest) := by
  unfold unsigned
  rw [hw]
  simp only [fraction_append hne hfs (endsDigits_power x rest), Option.elim_some, exponent_power x hr.endsDigits]

/-! ## The four forms of a numeral

`d :: ds` are the digits of a numeral, the first of which is not zero, and `point` says where the point stands. -/

theorem endsDigits_point (t : Text) : EndsDigits ('.' :: t) := by
  rintro c hc
  cases hc
  rfl

/-- The point stands in front of the digits. -/
theorem unsigned_layout_before {ds : Text} {point : Int} (hne : ds ≠ []) (hds : ∀ c ∈ ds, isDigit c = true)
    (hp : point ≤ 0) (hr : EndsNumber rest) :
    unsigned none place negative ("0.".toList ++ zeros (-point).toNat ++ ds ++ rest) =
      .ok (.float (ofDecimal negative (digitsValue ds) (point - ds.length)), rest) := by
  have hw : wholePart ("0.".toList ++ zeros (-point).toNat ++ ds ++ rest) =
      some (['0'], '.' :: ((zeros (-point).toNat ++ ds) ++ rest)) := by
    rw [List.append_assoc, List.append_assoc, List.append_assoc]
    rfl
  have hv : digitsValue (['0'] ++ (zeros (-point).toNat ++ ds)) = digitsValue ds := by
    rw [show ['0'] = zeros 1 from rfl, digitsValue_zeros_append, digitsValue_zeros_append]
  have hx : (-((zeros (-point).toNat ++ ds).length : Int)) = point - ds.length := by
    rw [List.length_append, zeros, List.length_replicate]
    omega
  have hfs := isDigit_of_mem_append (isDigit_of_mem_zeros (k := (-point).toNat)) hds
  rw [unsigned_of_fraction hw (List.append_ne_nil_of_right_ne_nil _ hne) hfs hr, hv, hx]

variable {d : Char}

/-- The point stands behind the digits, perhaps with zeros between them. -/
theorem unsigned_layout_behind (h0 : d ≠ '0') (hds : ∀ c ∈ d :: ds, isDigit c = true) (hv : digitsValue (d :: ds) ≠ 0)
    (k : Nat) (hr : EndsNumber rest) :
    unsigned none place negative (d :: ds ++ zeros k ++ ".0".toList ++ rest) =
      .ok (.float (ofDecimal negative (digitsValue (d :: ds)) k), rest) := by
  have hw : wholePart (d :: ds ++ zeros k ++ ".0".toList ++ rest) =
      some (d :: ds ++ zeros k, '.' :: (['0'] ++ rest)) := by
    rw [List.append_assoc]
    exact wholePart_append h0 (isDigit_of_mem_append hds isDigit_of_mem_zeros) (endsDigits_point _)
  have hval : digitsValue (d :: ds ++ zeros k ++ ['0']) = 10 * 10 ^ k * digitsValue (d :: ds) := by
    rw [digitsValue_append, digitsValue_append, digitsValue_zeros, zeros, List.length_replicate]
    show 10 ^ 1 * (_ + 0) + 0 = _
    ring
  rw [unsigned_of_fraction hw (by simp) (by simp [isDigit]) hr, hval]
  congr 3
  refine Binary64.ofDecimal_congr negative (by positivity) hv ?_
  push_cast
  rw [zpow_natCast]
  simp only [List.length_cons, List.length_nil, Nat.cast_one, zero_add, zpow_neg, zpow_one]
  field_simp

/-- The point stands among the digits. -/
theorem unsigned_layout_among {k : Nat} (h0 : d ≠ '0') (hds : ∀ c ∈ d :: ds, isDigit c = true)
    (hk : k + 1 < (d :: ds).length) (hr : EndsNumber rest) :
    unsigned none place negative ((d :: ds).take (k + 1) ++ '.' :: (d :: ds).drop (k + 1) ++ rest) =
      .ok (.float (ofDecimal negative (digitsValue (d :: ds)) ((k + 1 : Nat) - (d :: ds).length)), rest) := by
  have htake : ∀ c ∈ d :: ds.take k, isDigit c = true := fun c hc =>
    hds c (List.mem_of_mem_take (i := k + 1) (by rwa [List.take_succ_cons]))
  have hdrop : ∀ c ∈ ds.drop k, isDigit c = true := fun c hc => hds c (List.mem_cons_of_mem d (List.mem_of_mem_drop hc))
  have hne : ds.drop k ≠ [] := by
    rw [List.length_cons] at hk
    rw [Ne, List.drop_eq_nil_iff]
    omega
  have hw : wholePart ((d :: ds).take (k + 1) ++ '.' :: (d :: ds).drop (k + 1) ++ rest) =
      some (d :: ds.take k, '.' :: (ds.drop k ++ rest)) := by
    rw [List.append_assoc]
    exact wholePart_append h0 htake (endsDigits_point _)
  have hx : (-((ds.drop k).length : Int)) = (k + 1 : Nat) - (d :: ds).length := by
    rw [List.length_drop, List.length_cons]
    rw [List.length_cons] at hk
    omega
  rw [unsigned_of_fraction hw hne hdrop hr, hx, List.cons_append, List.take_append_drop]

/-- The point stands behind the first digit, unless it is the only one, and an exponent follows. -/
theorem unsigned_layout_power (h0 : d ≠ '0') (hds : ∀ c ∈ d :: ds, isDigit c = true) (x : Int) (hr : EndsNumber rest) :
    unsigned none place negative
        ((d :: ds).take 1 ++ (if (d :: ds).length ≤ 1 then [] else '.' :: (d :: ds).drop 1) ++ power x ++ rest) =
      .ok (.float (ofDecimal negative (digitsValue (d :: ds)) (x + 1 - (d :: ds).length)), rest) := by
  have hd : ∀ c ∈ [d], isDigit c = true := fun c hc => hds c (by rw [List.mem_singleton.1 hc]; exact List.mem_cons_self)
  cases ds with
  | nil =>
    have hw : wholePart ([d] ++ power x ++ rest) = some ([d], power x ++ rest) := by
      rw [List.append_assoc]
      exact wholePart_append h0 hd (endsDigits_power x rest)
    show unsigned none place negative ([d] ++ power x ++ rest) = _
    rw [unsigned_of_power hw hr]
    congr 4
    simp
  | cons f fs =>
    have hw : wholePart ([d] ++ '.' :: (f :: fs) ++ power x ++ rest) =
        some ([d], '.' :: ((f :: fs) ++ (power x ++ rest))) := by
      rw [List.append_assoc, List.append_assoc]
      exact wholePart_append h0 hd (endsDigits_point _)
    show unsigned none place negative ([d] ++ '.' :: (f :: fs) ++ power x ++ rest) = _
    rw [unsigned_of_fraction_power hw (by simp) (fun c hc => hds c (List.mem_cons_of_mem d hc)) hr]
    congr 4
    simp only [List.length_cons]
    omega

theorem unsigned_layout (h0 : d ≠ '0') (hds : ∀ c ∈ d :: ds, isDigit c = true) (hv : digitsValue (d :: ds) ≠ 0)
    (point : Int) (hr : EndsNumber rest) :
    unsigned none place negative (layout (d :: ds) point ++ rest) =
      .ok (.float (ofDecimal negative (digitsValue (d :: ds)) (point - (d :: ds).length)), rest) := by
  unfold layout
  by_cases hplain : (-4 < point && point ≤ 16) = true
  · rw [if_pos hplain]
    split_ifs with hbefore hbehind
    · exact unsigned_layout_before (by simp) hds hbefore hr
    · rw [unsigned_layout_behind h0 hds hv _ hr]
      congr 4
      omega
    · obtain ⟨k, hk⟩ : ∃ k, point.toNat = k + 1 := ⟨point.toNat - 1, by omega⟩
      rw [hk] at hbehind ⊢
      rw [unsigned_layout_among h0 hds (Nat.lt_of_not_le hbehind) hr]
      congr 4
      omega
  · have h := @unsigned_layout_power place ds rest negative d h0 hds (point - 1) hr
    rw [if_neg hplain, show point - (d :: ds).length = point - 1 + 1 - (d :: ds).length by omega, ← h]
    simp only [power, List.append_assoc, List.cons_append, List.nil_append]

/-! ## Finite numbers -/

theorem unsigned_magnitude {m : Nat} {e : Int} (h : Stored m e) (place : Text) (negative : Bool)
    (hr : EndsNumber rest) :
    unsigned none place negative (magnitude m e ++ rest) = .ok (.float (.finite negative m e), rest) := by
  unfold magnitude
  split_ifs with hm
  · subst hm
    obtain rfl : e = Binary64.minExponent := h.lead.resolve_left (by decide)
    have hw : wholePart (['0', '.', '0'] ++ rest) = some (['0'], '.' :: (['0'] ++ rest)) := rfl
    exact unsigned_of_fraction hw (by simp) (by simp [isDigit]) hr
  · have hread := Binary64.reads_shortest h hm
    obtain ⟨d, ds, hds, -⟩ := ofNat_eq_cons (Binary64.shortest m e).1
    have h0 := head?_ofNat_ne_zero (Nat.pos_of_ne_zero hread.1)
    have hall := isDigit_of_mem_ofNat (n := (Binary64.shortest m e).1)
    have hv := digitsValue_ofNat (Binary64.shortest m e).1
    simp only
    rw [hds] at h0 hall hv ⊢
    rw [unsigned_layout (fun h => h0 (by rw [h]; rfl)) hall (hv ▸ hread.1) _ hr, hv, Int.add_sub_cancel,
      Binary64.ofDecimal_shortest h hm negative]

/-- What is read as a number begins with a digit. -/
theorem eq_cons_of_unsigned {p : Value × Text} (h : unsigned none place negative t = .ok p) :
    ∃ d r, t = d :: r ∧ isDigit d = true := by
  cases hw : wholePart t with
  | none =>
    rw [unsigned, hw] at h
    cases h
  | some q =>
    unfold wholePart at hw
    split at hw
    · cases hw
    · exact ⟨'0', _, rfl, rfl⟩
    · split_ifs at hw with hd
      exact ⟨_, _, rfl, hd⟩

theorem number_of_unsigned {p : Value × Text} (h : unsigned none t false t = .ok p) : number none t = .ok p := by
  obtain ⟨d, r, rfl, hd⟩ := eq_cons_of_unsigned h
  unfold number
  split
  · rename_i hm
    obtain ⟨rfl, -⟩ := List.cons.inj hm
    cases hd
  · exact h

/-- **A finite number is read back from its numeral.** -/
theorem scalarReads_float {x : Binary64} (h : IsFinite x) : ScalarReads (numeral x) (.float x) := by
  intro rest hr
  match x, h with
  | .finite false m e, h =>
    have hu := unsigned_magnitude h (magnitude m e ++ rest) false hr
    obtain ⟨d, r, ht, hd⟩ := eq_cons_of_unsigned hu
    show scalar none (magnitude m e ++ rest) = _
    rw [scalar, ht, word?_digit hd, ← ht]
    exact number_of_unsigned hu
  | .finite true m e, h =>
    have hu := unsigned_magnitude h ('-' :: (magnitude m e ++ rest)) true hr
    obtain ⟨d, r, ht, hd⟩ := eq_cons_of_unsigned hu
    show scalar none ('-' :: (magnitude m e ++ rest)) = _
    rw [scalar, ht, word?_minus hd, ← ht]
    exact hu

end Json
end Licensing
