import Licensing.Proofs.Grammar.Refusal
/-!
# The bound on the nesting

The scan in front of the parser finds the first parenthesis that opens a group deeper than the bound, if there is one
(`firstTooDeep?_eq_none_iff`, `firstTooDeep?_eq_some`).  So a bounded parse succeeds exactly when the free one does and
the nesting is within the bound (`parse_eq_ok_iff`).  A bound up to 64 keeps the parser from running out of nesting, and
it refuses exactly what is nested too deeply (`parse_bounded`).
-/
namespace Licensing
namespace Grammar

variable {n : Int} {text : Text} {e : Expr}

/-- How many groups are open behind a token, where `d` are open in front of it. -/
def openBehind (d : Nat) (t : Text) : Nat := if t = ['('] then d + 1 else if t = [')'] then d - 1 else d

theorem deepest_cons (d : Nat) (t : Text) (ts : List Text) :
    deepest d (t :: ts) = max d (deepest (openBehind d t) ts) := by
  rw [deepest, openBehind]
  split
  · have := le_deepest (d + 1) ts
    omega
  · split
    · rfl
    · have := le_deepest d ts
      omega

theorem eq_paren_of_lt_openBehind {d : Nat} {t : Text} (h : d < openBehind d t) :
    t = ['('] ∧ openBehind d t = d + 1 := by
  by_cases ho : t = ['(']
  · exact ⟨ho, if_pos ho⟩
  · rw [openBehind, if_neg ho] at h
    split at h <;> omega

/-- One step of the scan, where no more groups are open than the limit allows.  A negative limit allows as little as
zero. -/
theorem firstTooDeep?_cons {d : Nat} {t : Token} (ts : List Token) (hd : d ≤ n.toNat) :
    firstTooDeep? n d (t :: ts) =
      if n.toNat < openBehind d t.text then some t else firstTooDeep? n (openBehind d t.text) ts := by
  rw [firstTooDeep?, openBehind]
  by_cases ho : t.text = ['(']
  · have hlt : n < (d : Int) + 1 ↔ n.toNat < d + 1 := by omega
    simp only [if_pos ho, hlt]
  · by_cases hc : t.text = [')']
    · rw [if_neg ho, if_pos hc, if_neg ho, if_pos hc, if_neg (by omega)]
    · rw [if_neg ho, if_neg hc, if_neg ho, if_neg hc, if_neg (by omega)]

/-- **The scan passes exactly the tokens that are nested within the limit.** -/
theorem firstTooDeep?_eq_none_iff : ∀ {ts : List Token} {d : Nat}, d ≤ n.toNat →
    (firstTooDeep? n d ts = none ↔ deepest d (ts.map (·.text)) ≤ n.toNat)
  | [], d, hd => by simpa [firstTooDeep?, deepest] using hd
  | t :: ts, d, hd => by
    rw [firstTooDeep?_cons ts hd, List.map_cons, deepest_cons]
    by_cases h : n.toNat < openBehind d t.text
    · have := le_deepest (openBehind d t.text) (ts.map (·.text))
      rw [if_pos h]
      simp only [reduceCtorEq, false_iff]
      omega
    · rw [if_neg h, firstTooDeep?_eq_none_iff (Nat.not_lt.1 h)]
      omega

/-- **The token that the scan finds is the first parenthesis that opens a group too many.** -/
theorem firstTooDeep?_eq_some : ∀ {ts : List Token} {d : Nat} {t : Token}, d ≤ n.toNat →
    firstTooDeep? n d ts = some t → ∃ pre post, ts = pre ++ t :: post ∧ t.text = ['('] ∧
      deepest d (pre.map (·.text)) ≤ n.toNat ∧ deepest d ((pre ++ [t]).map (·.text)) = n.toNat + 1
  | [], _, _, _, h => by cases h
  | u :: ts, d, t, hd, h => by
    rw [firstTooDeep?_cons ts hd] at h
    by_cases hu : n.toNat < openBehind d u.text
    · rw [if_pos hu] at h
      obtain rfl := Option.some.inj h
      obtain ⟨ho, heq⟩ := eq_paren_of_lt_openBehind (Nat.lt_of_le_of_lt hd hu)
      refine ⟨[], ts, rfl, ho, hd, ?_⟩
      rw [List.nil_append, List.map_singleton, deepest_cons, deepest]
      omega
    · rw [if_neg hu] at h
      obtain ⟨pre, post, rfl, ht, hle, heq⟩ := firstTooDeep?_eq_some (Nat.not_lt.1 hu) h
      refine ⟨u :: pre, post, rfl, ht, ?_, ?_⟩
      · rw [List.map_cons, deepest_cons]
        omega
      · rw [List.cons_append, List.map_cons, deepest_cons]
        omega

/-! ## Parsing with a bound -/

theorem parse_of_nesting_le [Stack] (h : nesting (Token.words text) ≤ n.toNat) :
    parse text (some n) = parse text none := by
  have hnone : firstTooDeep? n 0 (Cursor.ofText text).tokens = none :=
    (firstTooDeep?_eq_none_iff (Nat.zero_le _)).2 h
  unfold parse
  rw [Option.bind_some, hnone]
  rfl

theorem parse_of_lt_nesting [Stack] (h : n.toNat < nesting (Token.words text)) :
    ∃ pre t post, (Cursor.ofText text).tokens = pre ++ t :: post ∧ t.text = ['('] ∧
      nesting (pre.map (·.text)) ≤ n.toNat ∧ nesting ((pre ++ [t]).map (·.text)) = n.toNat + 1 ∧
      parse text (some n) = .error (tooDeep text n t) := by
  cases hf : firstTooDeep? n 0 (Cursor.ofText text).tokens with
  | none => exact absurd ((firstTooDeep?_eq_none_iff (Nat.zero_le _)).1 hf) (Nat.not_le.2 h)
  | some t =>
    obtain ⟨pre, post, hts, ht, hle, heq⟩ := firstTooDeep?_eq_some (Nat.zero_le _) hf
    refine ⟨pre, t, post, hts, ht, hle, heq, ?_⟩
    unfold parse
    rw [Option.bind_some, hf]
    rfl

/-- **A bound only refuses what is nested too deeply.** -/
theorem parse_eq_ok_iff [Stack] {maxDepth : Option Int} :
    parse text maxDepth = .ok e ↔ parse text none = .ok e ∧ ∀ n ∈ maxDepth, nesting (Token.words text) ≤ n.toNat := by
  cases maxDepth with
  | none => simp
  | some n =>
    simp only [Option.mem_def, Option.some.injEq, forall_eq']
    by_cases h : nesting (Token.words text) ≤ n.toNat
    · rw [parse_of_nesting_le h]
      simp only [h, and_true]
    · obtain ⟨pre, t, post, -, -, -, -, he⟩ := parse_of_lt_nesting (Nat.not_le.1 h)
      simp [he, h]

theorem tooDeep_ne_exhaustion (t : Token) : tooDeep text n t ≠ exhaustion text := by
  simp [tooDeep, exhaustion, ParseError.of]

/-- A text is not nested too deeply for the parser if the count of its parentheses says so. -/
theorem parseWithin_ne_exhaustion {limit : Nat} (h : nesting (Token.words text) ≤ limit) :
    parseWithin limit text ≠ .error (exhaustion text) := by
  obtain ⟨r, d, hr⟩ := exists_run (.ofText text)
  have hd : d ≤ nesting (Token.words text) := hr.depth_le_nesting
  intro he
  have hlt := hr.parseWithin_eq_exhaustion_iff.1 he
  omega

/-- **The bound on the nesting is sound and complete.**  Under a bound of at most 64 the parser never runs out of
nesting; a text that is nested more deeply is refused at the first parenthesis that opens a group too many, whatever
else is wrong with it; any other text is read as without a bound.  So exactly the sentences within the bound are
accepted, and under every larger bound they are accepted as the same expressions. -/
theorem parse_bounded [Stack] {bound : Nat} (h : bound ≤ 64) (text : Text) :
    parse text (some bound) ≠ .error (exhaustion text) ∧
    (bound < nesting (Token.words text) →
      ∃ pre t post, (Cursor.ofText text).tokens = pre ++ t :: post ∧ t.text = ['('] ∧
        nesting (pre.map (·.text)) ≤ bound ∧ nesting ((pre ++ [t]).map (·.text)) = bound + 1 ∧
        parse text (some bound) = .error
          ⟨.unexpectedToken, text, t.start, "parentheses nested deeper than ".toList ++ Text.ofNat bound⟩) ∧
    (nesting (Token.words text) ≤ bound → parse text (some bound) = parse text none) ∧
    (∀ e, parse text (some bound) = .ok e ↔
      Derives .compound (Token.words text) e ∧ nesting (Token.words text) ≤ bound) ∧
    ∀ (e : Expr) (larger : Int), bound ≤ larger → parse text (some bound) = .ok e →
      parse text (some larger) = .ok e := by
  have hlimit : bound ≤ Stack.groups := Nat.le_trans h Stack.enough
  refine ⟨?_, fun hlt => parse_of_lt_nesting (n := bound) hlt, fun hle => parse_of_nesting_le (n := bound) hle,
    fun e => ?_, fun e larger hlarger he => ?_⟩
  · by_cases hn : nesting (Token.words text) ≤ bound
    · rw [parse_of_nesting_le (n := bound) hn, parse_none_eq]
      exact parseWithin_ne_exhaustion (Nat.le_trans hn hlimit)
    · obtain ⟨pre, t, post, -, -, -, -, he⟩ := parse_of_lt_nesting (n := bound) (Nat.not_le.1 hn)
      rw [he]
      exact fun heq => tooDeep_ne_exhaustion t (Except.error.inj heq)
  · rw [parse_eq_ok_iff]
    simp only [Option.mem_def, Option.some.injEq, forall_eq', Int.toNat_natCast]
    refine and_congr_left fun hn => ⟨fun hp => (derives_of_parseFree hp).1, fun hd => ?_⟩
    rcases hd.parseFree with hp | ⟨-, hlt⟩
    · exact hp
    · omega
  · obtain ⟨hp, hn⟩ := parse_eq_ok_iff.1 he
    have := hn bound rfl
    refine parse_eq_ok_iff.2 ⟨hp, fun n hmem => ?_⟩
    obtain rfl := Option.some.inj hmem
    omega

theorem parse_bounded_by_one :
    letI := Stack.least
    let text := "(MIT) AND ((foo".toList
    let sentence := "(MIT) AND (ISC)".toList
    let e := Expr.and (.simple (.id "MIT".toList false)) (.simple (.id "ISC".toList false))
    1 ≤ 64 ∧ (∃ pre t post, (Cursor.ofText text).tokens = pre ++ t :: post ∧ t.text = ['('] ∧
      nesting (pre.map (·.text)) ≤ 1 ∧ nesting ((pre ++ [t]).map (·.text)) = 1 + 1 ∧
      parse text (some (1 : Nat)) = .error
        ⟨.unexpectedToken, text, t.start, "parentheses nested deeper than ".toList ++ Text.ofNat 1⟩) ∧
      parse sentence (some (1 : Nat)) = .ok e ∧ Derives .compound (Token.words sentence) e ∧
      parse sentence (some 2) = .ok e := by
  let _ := Stack.least
  intro text sentence e
  have h : 1 ≤ 64 := by decide
  have hdeep : 1 < nesting (Token.words text) := by decide +kernel
  have hp : parse sentence (some (1 : Nat)) = .ok e := by decide +kernel
  obtain ⟨-, -, -, haccept, hlarger⟩ := parse_bounded h sentence
  exact ⟨h, (parse_bounded h text).2.1 hdeep, hp, ((haccept e).1 hp).1, hlarger e 2 (by decide) hp⟩

end Grammar
end Licensing
