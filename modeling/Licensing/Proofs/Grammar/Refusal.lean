import Licensing.Proofs.Grammar.Run
/-!
# Where an expression is refused

A run that fails does so for want of a parenthesis: at a token that is not the one, or at the end of the text
(`Run.blames`).  The tokens in front of that place begin a sentence, so of a text that is refused, everything before the
fault is fine (`parse_error_viable`).  No such error looks like that of a parser which ran out of nesting
(`Run.finish_ne_exhaustion`).
-/
namespace Licensing
namespace Grammar

open Licensing.Parser

variable {l : Level} {c : Cursor} {r : Outcome Expr} {e : Expr} {f : ParseError} {d : Nat} {text : Text}

/-! ## Beginnings of sentences -/

/-- Some sentence of the level begins with these tokens. -/
def Viable (l : Level) (ts : List Text) : Prop := ∃ us e, Derives l (ts ++ us) e

theorem Derives.viable {ts : List Text} (h : Derives l ts e) : Viable l ts :=
  ⟨[], e, by rwa [List.append_nil]⟩

theorem Derives.operand (o : Operator) {ts : List Text} (h : Derives o.operand ts e) : Derives o.level ts e := by
  cases o with
  | or => exact .disjunct h
  | and => exact .conjunct h

theorem Viable.operand (o : Operator) {ts : List Text} (h : Viable o.operand ts) : Viable o.level ts := by
  obtain ⟨us, e, h⟩ := h
  exact ⟨us, e, h.operand o⟩

theorem Viable.group {ts : List Text} (h : Viable .compound ts) : Viable .primary (['('] :: ts) := by
  obtain ⟨us, e, h⟩ := h
  refine ⟨us ++ [[')']], e, ?_⟩
  rw [List.cons_append, ← List.append_assoc]
  exact .group h

theorem viable_nil : Viable .primary [] :=
  ⟨["MIT".toList], _, .simple (.id (n := "MIT".toList) ⟨by decide +kernel, rfl⟩)⟩

/-! ## What a failed run says -/

/-- There is no parenthesis at the cursor where one is needed. -/
def WantsParen (c : Cursor) (f : ParseError) : Prop :=
  literal "(".toList c = .failed f ∨ literal ")".toList c = .failed f

/-- **A run that fails wants a parenthesis behind the beginning of a sentence.** -/
theorem Run.blames (h : Run l c r d) :
    ∀ f, r = .failed f → ∃ ts rest, c.Passes ts rest ∧ Viable l (ts.map (·.text)) ∧ WantsParen rest f := by
  induction h with
  | excepted | license | group | alone | givenBack | joined =>
    intro f hf
    cases hf
  | unopened _ _ ho =>
    intro f hf
    cases hf
    exact ⟨[], _, .stay, viable_nil, Or.inl ho⟩
  | broken _ _ ho _ ih =>
    intro f hf
    cases hf
    obtain ⟨-, t, hn, ht⟩ := literal_eq_done_iff.1 ho
    obtain ⟨ts, rest, hts, hv, hw⟩ := ih _ rfl
    refine ⟨t :: ts, rest, .next hn hts, ?_, hw⟩
    rw [List.map_cons, ht]
    exact hv.group
  | unclosed _ _ ho hd hc =>
    intro f hf
    cases hf
    obtain ⟨-, t, hn, ht⟩ := literal_eq_done_iff.1 ho
    obtain ⟨ts, hts, hd⟩ := hd.derives
    refine ⟨t :: ts, _, .next hn hts, ?_, Or.inr hc⟩
    rw [List.map_cons, ht]
    exact hd.viable.group
  | missing o _ ih =>
    intro f hf
    obtain ⟨ts, rest, hts, hv, hw⟩ := ih f hf
    exact ⟨ts, rest, hts, hv.operand o, hw⟩

theorem WantsParen.ne_exhaustion (h : WantsParen c f) : f ≠ exhaustion text := by
  rintro rfl
  rcases h with h | h <;> rcases literal_eq_failed_iff.1 h with ⟨-, he⟩ | ⟨t, rest, -, -, he⟩ <;>
    simp [exhaustion, endOfInput, ParseError.of] at he

theorem leftover_ne_exhaustion (t : Token) : leftover text t ≠ exhaustion text := by
  simp [leftover, exhaustion, ParseError.of]

/-! ## Whole texts -/

/-- The answer on a whole text of a parser that opens at most `limit` groups at once. -/
def parseWithin (limit : Nat) (text : Text) : Except ParseError Expr :=
  finish text (compound limit (.ofText text))

theorem parse_none_eq [Stack] (text : Text) : parse text none = parseWithin Stack.groups text := rfl

theorem finish_done_ne_exhaustion (e : Expr) (rest : Cursor) :
    finish text (.done e rest) ≠ .error (exhaustion text) := by
  intro h
  rw [finish] at h
  split at h
  · cases h
  · exact leftover_ne_exhaustion _ (Except.error.inj h)

theorem Run.finish_ne_exhaustion (h : Run .compound (.ofText text) r d) :
    finish text r ≠ .error (exhaustion text) := by
  intro he
  cases r with
  | done e rest => exact finish_done_ne_exhaustion e rest he
  | failed f =>
    obtain ⟨ts, rest, -, -, hw⟩ := h.blames f rfl
    exact hw.ne_exhaustion (Except.error.inj he)
  | exhausted => exact h.ne_exhausted rfl

theorem Run.parseWithin_eq (h : Run .compound (.ofText text) r d) {n : Nat} (hn : d ≤ n) :
    parseWithin n text = finish text r := by
  rw [parseWithin, compound_eq, h.parser_eq hn]

theorem Run.parseWithin_eq_exhaustion_iff (h : Run .compound (.ofText text) r d) {n : Nat} :
    parseWithin n text = .error (exhaustion text) ↔ n < d := by
  constructor
  · intro he
    by_contra hn
    rw [h.parseWithin_eq (Nat.not_lt.1 hn)] at he
    exact h.finish_ne_exhaustion he
  · intro hn
    rw [parseWithin, compound_eq, h.parser_eq_exhausted_iff.2 hn]
    rfl

/-- What an error says in front of the token that it quotes. -/
def refusalLeads : List Text :=
  ["expected '(', got ".toList, "expected ')', got ".toList, "unexpected token after expression: ".toList]

theorem WantsParen.at_token (h : WantsParen c f) :
    (c.next? = none ∧ f = endOfInput c) ∨ ∃ t rest, c.next? = some (t, rest) ∧
      ∃ lead ∈ refusalLeads, f = ⟨.unexpectedToken, c.source, t.start, lead ++ Text.quoted t.text⟩ := by
  rcases h with h | h <;> rcases literal_eq_failed_iff.1 h with ⟨hn, rfl⟩ | ⟨t, rest, hn, -, rfl⟩
  · exact Or.inl ⟨hn, rfl⟩
  · exact Or.inr ⟨t, rest, hn, _, List.mem_cons_self, rfl⟩
  · exact Or.inl ⟨hn, rfl⟩
  · exact Or.inr ⟨t, rest, hn, _, List.mem_cons_of_mem _ List.mem_cons_self, rfl⟩

/-- An error is about the end of a text whose tokens begin a sentence, or about a token behind the beginning of one. -/
theorem Run.finish_eq_error {e : ParseError} (h : Run .compound (.ofText text) r d) (he : finish text r = .error e) :
    (e = endOfInput (.ofText text) ∧ Viable .compound (Token.words text)) ∨
      ∃ ts t us, (Cursor.ofText text).tokens = ts ++ t :: us ∧ Viable .compound (ts.map (·.text)) ∧
        ∃ lead ∈ refusalLeads, e = ⟨.unexpectedToken, text, t.start, lead ++ Text.quoted t.text⟩ := by
  cases r with
  | exhausted => exact absurd rfl h.ne_exhausted
  | done x rest =>
    rw [finish] at he
    split at he
    · cases he
    · rename_i t ht
      obtain rfl := Except.error.inj he
      obtain ⟨ts, hts, hx⟩ := h.derives
      obtain ⟨rest', hn⟩ : ∃ rest', rest.next? = some (t, rest') := ⟨_, by rw [Cursor.next?, ht]; rfl⟩
      refine Or.inr ⟨ts, t, rest'.tokens, hts.tokens_next hn, hx.viable, _, ?_, rfl⟩
      exact List.mem_cons_of_mem _ (List.mem_cons_of_mem _ List.mem_cons_self)
  | failed f =>
    obtain rfl := Except.error.inj he
    obtain ⟨ts, rest, hts, hv, hw⟩ := h.blames f rfl
    have hsource : rest.source = text := hts.source_eq
    rcases hw.at_token with ⟨hn, rfl⟩ | ⟨t, rest', hn, lead, hlead, rfl⟩
    · refine Or.inl ⟨by rw [endOfInput, hsource]; rfl, ?_⟩
      rwa [Token.words, hts.words_eq, Cursor.words_of_next?_none hn, List.append_nil]
    · exact Or.inr ⟨ts, t, rest'.tokens, hts.tokens_next hn, hv, lead, hlead, by rw [hsource]⟩

/-- **Of a text that is refused, everything before the fault is fine**: either the text ends too early, and more tokens
would make it a sentence, or the error stands at a token, which it quotes, and the tokens in front of that one begin a
sentence. -/
theorem parse_error_viable [Stack] {e : ParseError} (h : parse text none = .error e) (hx : e ≠ exhaustion text) :
    e.expression = text ∧
      ((e.kind = .endOfInput ∧ e.position = text.length ∧
          ∃ us x, us ≠ [] ∧ Derives .compound (Token.words text ++ us) x) ∨
        (e.kind = .unexpectedToken ∧ ∃ ts t us, (Cursor.ofText text).tokens = ts ++ t :: us ∧ e.position = t.start ∧
          (∃ lead ∈ refusalLeads, e.detail = lead ++ Text.quoted t.text) ∧
          ∃ vs x, Derives .compound (ts.map (·.text) ++ vs) x)) := by
  obtain ⟨r, d, hr⟩ := exists_run (.ofText text)
  have hd : d ≤ Stack.groups := by
    by_contra hn
    have he := hr.parseWithin_eq_exhaustion_iff.2 (Nat.not_le.1 hn)
    rw [← parse_none_eq, h] at he
    exact hx (Except.error.inj he)
  have hf : finish text r = .error e := by rw [← hr.parseWithin_eq hd, ← parse_none_eq, h]
  rcases hr.finish_eq_error hf with ⟨rfl, us, x, hd⟩ | ⟨ts, t, us, htokens, hv, lead, hlead, rfl⟩
  · refine ⟨rfl, Or.inl ⟨rfl, rfl, us, x, ?_, hd⟩⟩
    -- a sentence would have been read
    rintro rfl
    rw [List.append_nil] at hd
    rcases hd.parseFree with hok | ⟨he, -⟩
    · rw [parse_none, hok] at h
      cases h
    · rw [parse_none, he] at h
      exact hx (Except.error.inj h).symm
  · exact ⟨rfl, Or.inr ⟨rfl, ts, t, us, htokens, rfl, ⟨lead, hlead, rfl⟩, hv⟩⟩

theorem parse_error_viable_missing_operand :
    letI := Stack.least
    let text := "(mit AND (ISC) WITH".toList
    let e : ParseError := ⟨.unexpectedToken, text, 15, "expected ')', got 'WITH'".toList⟩
    parse text none = .error e ∧ e ≠ exhaustion text ∧
      ∃ ts t us, (Cursor.ofText text).tokens = ts ++ t :: us ∧ (15 : Int) = t.start ∧
        ∃ vs x, Derives .compound (ts.map (·.text) ++ vs) x := by
  let _ := Stack.least
  intro text e
  have hp : parse text none = .error e := by decide +kernel
  have hx : e ≠ exhaustion text := by decide +kernel
  obtain ⟨-, ⟨hk, -⟩ | ⟨-, ts, t, us, ht, hs, -, hv⟩⟩ := parse_error_viable hp hx
  · cases hk
  · exact ⟨hp, hx, ts, t, us, ht, hs, hv⟩

end Grammar
end Licensing
