import Licensing.Proofs.Parser.Outcomes
/-!
# Parsers only go forward

A cursor passes tokens when it reads one after the other.  What a parser reads it passes (`Forward`), so it stops where
it began or behind one of the tokens from there on, in the same source.  Every combinator keeps this.
-/
namespace Licensing
namespace Cursor

/-- Reading these tokens one after the other leads from one cursor to the other. -/
inductive Passes : Cursor → List Token → Cursor → Prop
  | stay {c : Cursor} : Passes c [] c
  | next {c mid rest : Cursor} {t : Token} {ts : List Token} :
      c.next? = some (t, mid) → Passes mid ts rest → Passes c (t :: ts) rest

theorem Passes.one {c rest : Cursor} {t : Token} (h : c.next? = some (t, rest)) : c.Passes [t] rest := .next h .stay

theorem Passes.append {c mid rest : Cursor} {ts us : List Token} (h : c.Passes ts mid) (h' : mid.Passes us rest) :
    c.Passes (ts ++ us) rest := by
  induction h with
  | stay => exact h'
  | next hn _ ih => exact .next hn (ih h')

theorem source_of_next?_some {c rest : Cursor} {t : Token} (h : c.next? = some (t, rest)) :
    rest.source = c.source := by
  unfold next? at h
  obtain ⟨u, -, hu⟩ := Option.map_eq_some_iff.1 h
  obtain ⟨-, rfl⟩ := Prod.mk.inj hu
  rfl

theorem Passes.source_eq {c rest : Cursor} {ts : List Token} (h : c.Passes ts rest) : rest.source = c.source := by
  induction h with
  | stay => rfl
  | next hn _ ih => rw [ih, source_of_next?_some hn]

theorem Passes.tokens_eq {c rest : Cursor} {ts : List Token} (h : c.Passes ts rest) :
    c.tokens = ts ++ rest.tokens := by
  induction h with
  | stay => rfl
  | next hn _ ih =>
    rw [Cursor.tokens_eq, hn, List.cons_append, ← ih]

/-- The token that is next where some have been passed stands behind them. -/
theorem Passes.tokens_next {c mid rest : Cursor} {ts : List Token} {t : Token} (h : c.Passes ts mid)
    (hn : mid.next? = some (t, rest)) : c.tokens = ts ++ t :: rest.tokens := by
  rw [h.tokens_eq, mid.tokens_eq, hn]

theorem Passes.words_eq {c rest : Cursor} {ts : List Token} (h : c.Passes ts rest) :
    c.words = ts.map (·.text) ++ rest.words := by
  rw [words, h.tokens_eq, List.map_append]
  rfl

theorem Passes.length_words_le {c rest : Cursor} {ts : List Token} (h : c.Passes ts rest) :
    rest.words.length ≤ c.words.length := by
  rw [h.words_eq, List.length_append]
  exact Nat.le_add_left _ _

theorem length_words_of_next?_some {c rest : Cursor} {t : Token} (h : c.next? = some (t, rest)) :
    rest.words.length < c.words.length := by
  rw [words_of_next?_some h]
  exact Nat.lt_succ_self _

end Cursor

namespace Parser

variable {α β : Type} {p : Parser α} {q : Parser β}

/-- A success has passed the tokens in front of the place where it stops. -/
def Forward (p : Parser α) : Prop := ∀ ⦃c rest : Cursor⦄ ⦃a : α⦄, p c = .done a rest → ∃ ts, c.Passes ts rest

theorem forward_pure (a : α) : Forward (pure a) := by
  intro c rest b h
  cases h
  exact ⟨[], .stay⟩

theorem forward_bind {f : α → Parser β} (hp : Forward p) (hf : ∀ a, Forward (f a)) : Forward (p.bind f) := by
  intro c rest b h
  obtain ⟨a, mid, ha, hb⟩ := bind_eq_done_iff.1 h
  obtain ⟨ts, hts⟩ := hp ha
  obtain ⟨us, hus⟩ := hf a hb
  exact ⟨ts ++ us, hts.append hus⟩

theorem forward_map {f : α → β} (hp : Forward p) : Forward (p.map f) :=
  forward_bind hp fun _ => forward_pure _

theorem forward_both (hp : Forward p) (hq : Forward q) : Forward (p.both q) :=
  forward_bind hp fun _ => forward_map hq

theorem forward_seq : ∀ {ps : List (Parser α)}, (∀ p ∈ ps, Forward p) → Forward (seq ps)
  | [], _ => forward_pure []
  | _ :: _, h => by
    obtain ⟨hp, hps⟩ := List.forall_mem_cons.1 h
    exact forward_bind hp fun _ => forward_map (forward_seq hps)

theorem forward_literal (word : Text) : Forward (literal word) := by
  intro c rest w h
  obtain ⟨-, t, hn, -⟩ := literal_eq_done_iff.1 h
  exact ⟨[t], .one hn⟩

theorem forward_oneToken (check : Text → Except ParseError α) : Forward (oneToken check) := by
  intro c rest a h
  obtain ⟨t, hn, -⟩ := oneToken_eq_done_iff.1 h
  exact ⟨[t], .one hn⟩

theorem forward_maybe (hp : Forward p) : Forward (maybe p) := by
  intro c rest o h
  rcases maybe_eq_done_iff.1 h with ⟨a, -, ha⟩ | ⟨-, rfl, -⟩
  · exact hp ha
  · exact ⟨[], .stay⟩

theorem forward_tryEach {policy : Policy} : ∀ {errors : List ParseError} {ps : List (Parser α)},
    (∀ p ∈ ps, Forward p) → Forward (tryEach policy errors ps)
  | _, [], _ => by
    intro c rest a h
    cases h
  | errors, p :: ps, hps => by
    intro c rest a h
    rcases tryEach_cons_eq_done_iff.1 h with hp | ⟨e, -, hrest⟩
    · exact hps p List.mem_cons_self hp
    · exact forward_tryEach (fun r hr => hps r (List.mem_cons_of_mem p hr)) hrest

theorem forward_oneOf {policy : Policy} {ps : List (Parser α)} (h : ∀ p ∈ ps, Forward p) : Forward (oneOf policy ps) :=
  forward_tryEach h

end Parser
end Licensing
