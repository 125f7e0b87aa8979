import Licensing.Parser
import Licensing.Proofs.Token.Words
/-!
# Outcomes of combined parsers

For each way to put parsers together: when the whole succeeds, and what it is made of when it does.
-/
namespace Licensing
namespace Parser

variable {α β : Type} {p : Parser α} {q : Parser β} {c rest : Cursor}

theorem bind_eq_done_iff {f : α → Parser β} {b : β} :
    p.bind f c = .done b rest ↔ ∃ a mid, p c = .done a mid ∧ f a mid = .done b rest := by
  unfold bind
  constructor
  · intro h
    split at h
    · rename_i a mid hp
      exact ⟨a, mid, hp, h⟩
    · cases h
    · cases h
  · rintro ⟨a, mid, hp, hf⟩
    rw [hp]
    exact hf

theorem bind_eq_exhausted_iff {f : α → Parser β} :
    p.bind f c = .exhausted ↔ p c = .exhausted ∨ ∃ a mid, p c = .done a mid ∧ f a mid = .exhausted := by
  unfold bind
  cases p c with
  | done a mid =>
    simp only [Outcome.done.injEq, reduceCtorEq, false_or]
    exact ⟨fun h => ⟨a, mid, ⟨rfl, rfl⟩, h⟩, by rintro ⟨a', mid', ⟨rfl, rfl⟩, h⟩; exact h⟩
  | failed e => simp
  | exhausted => simp

theorem map_eq_done_iff {f : α → β} {b : β} : p.map f c = .done b rest ↔ ∃ a, p c = .done a rest ∧ f a = b := by
  unfold map
  rw [bind_eq_done_iff]
  constructor
  · rintro ⟨a, mid, hp, hf⟩
    cases hf
    exact ⟨a, hp, rfl⟩
  · rintro ⟨a, hp, rfl⟩
    exact ⟨a, rest, hp, rfl⟩

theorem map_eq_exhausted_iff {f : α → β} : p.map f c = .exhausted ↔ p c = .exhausted := by
  unfold map
  rw [bind_eq_exhausted_iff]
  exact ⟨fun h => h.resolve_right (by rintro ⟨a, mid, -, hf⟩; cases hf), Or.inl⟩

theorem both_eq_done_iff {r : α × β} :
    p.both q c = .done r rest ↔ ∃ mid, p c = .done r.1 mid ∧ q mid = .done r.2 rest := by
  unfold both
  simp only [bind_eq_done_iff, map_eq_done_iff]
  constructor
  · rintro ⟨a, mid, hp, b, hq, rfl⟩
    exact ⟨mid, hp, hq⟩
  · rintro ⟨mid, hp, hq⟩
    exact ⟨r.1, mid, hp, r.2, hq, rfl⟩

theorem both_eq_exhausted_iff :
    p.both q c = .exhausted ↔ p c = .exhausted ∨ ∃ a mid, p c = .done a mid ∧ q mid = .exhausted := by
  unfold both
  simp only [bind_eq_exhausted_iff, map_eq_exhausted_iff]

theorem map_eq_failed {f : α → β} {e : ParseError} (h : p c = .failed e) : p.map f c = .failed e := by
  simp only [map, bind, h]

theorem both_eq_failed_left {e : ParseError} (h : p c = .failed e) : p.both q c = .failed e := by
  simp only [both, bind, h]

theorem both_eq_failed_right {a : α} {e : ParseError} (hp : p c = .done a rest) (hq : q rest = .failed e) :
    p.both q c = .failed e := by
  simp only [both, map, bind, hp, hq]

theorem maybe_eq_done_iff {o : Option α} :
    p.maybe c = .done o rest ↔
      (∃ a, o = some a ∧ p c = .done a rest) ∨ (o = none ∧ rest = c ∧ ∃ e, p c = .failed e) := by
  unfold maybe
  constructor
  · intro h
    split at h
    · cases h
      exact Or.inl ⟨_, rfl, ‹_›⟩
    · cases h
      exact Or.inr ⟨rfl, rfl, _, ‹_›⟩
    · cases h
  · rintro (⟨a, rfl, hp⟩ | ⟨rfl, rfl, e, hp⟩) <;> rw [hp]

theorem maybe_eq_exhausted_iff : p.maybe c = .exhausted ↔ p c = .exhausted := by
  unfold maybe
  cases p c <;> simp

theorem literal_eq_done_iff {word w : Text} :
    literal word c = .done w rest ↔ w = word ∧ ∃ t, c.next? = some (t, rest) ∧ t.text = word := by
  unfold literal
  constructor
  · intro h
    split at h
    · cases h
    · rename_i t r hn
      split at h
      · rename_i ht
        cases h
        exact ⟨rfl, t, hn, ht⟩
      · cases h
  · rintro ⟨rfl, t, hn, ht⟩
    simp only [hn, ht, if_true]

theorem oneToken_eq_done_iff {check : Text → Except ParseError α} {a : α} :
    oneToken check c = .done a rest ↔ ∃ t, c.next? = some (t, rest) ∧ check t.text = .ok a := by
  unfold oneToken
  constructor
  · intro h
    split at h
    · cases h
    · rename_i t r hn
      split at h
      · rename_i ht
        cases h
        exact ⟨t, hn, ht⟩
      · cases h
  · rintro ⟨t, hn, ht⟩
    simp only [hn, ht]

theorem oneToken_ne_exhausted {check : Text → Except ParseError α} : oneToken check c ≠ .exhausted := by
  intro h
  unfold oneToken at h
  split at h
  · cases h
  · split at h <;> cases h

theorem oneToken_eq_failed_iff {check : Text → Except ParseError α} {t : Token} (hn : c.next? = some (t, rest)) :
    (∃ e, oneToken check c = .failed e) ↔ ∀ a, check t.text ≠ .ok a := by
  unfold oneToken
  simp only [hn]
  cases check t.text <;> simp

/-- The error of a token is that of its check, seen from the source. -/
theorem oneToken_failed_iff {check : Text → Except ParseError α} {t : Token} {e : ParseError}
    (hn : c.next? = some (t, rest)) :
    oneToken check c = .failed e ↔ ∃ f, check t.text = .error f ∧ e = f.relocate c.source t.start := by
  unfold oneToken
  simp only [hn]
  cases check t.text with
  | ok a => simp
  | error f =>
    simp only [Outcome.failed.injEq, Except.error.injEq]
    constructor
    · rintro rfl
      exact ⟨f, rfl, rfl⟩
    · rintro ⟨g, rfl, rfl⟩
      rfl

theorem words_of_oneToken {check : Text → Except ParseError α} {a : α} (h : oneToken check c = .done a rest) :
    ∃ t, c.words = t :: rest.words ∧ check t = .ok a := by
  obtain ⟨t, hn, ht⟩ := oneToken_eq_done_iff.1 h
  exact ⟨t.text, Cursor.words_of_next?_some hn, ht⟩

theorem oneToken_of_words {check : Text → Except ParseError α} {a : α} {t : Text} {ts : List Text}
    (hc : c.words = t :: ts) (ht : check t = .ok a) : ∃ rest, oneToken check c = .done a rest ∧ rest.words = ts := by
  obtain ⟨w, rest, hn, rfl, hr⟩ := Cursor.next?_of_words_cons hc
  exact ⟨rest, oneToken_eq_done_iff.2 ⟨w, hn, ht⟩, hr⟩

theorem words_of_literal {word w : Text} (h : literal word c = .done w rest) : c.words = word :: rest.words := by
  obtain ⟨-, t, hn, rfl⟩ := literal_eq_done_iff.1 h
  exact Cursor.words_of_next?_some hn

theorem literal_of_words {word : Text} {ts : List Text} (hc : c.words = word :: ts) :
    ∃ rest, literal word c = .done word rest ∧ rest.words = ts := by
  obtain ⟨w, rest, hn, rfl, hr⟩ := Cursor.next?_of_words_cons hc
  exact ⟨rest, literal_eq_done_iff.2 ⟨rfl, w, hn, rfl⟩, hr⟩

theorem literal_eq_failed {word : Text} (h : ∀ w ∈ c.words.head?, w ≠ word) : ∃ e, literal word c = .failed e := by
  unfold literal
  split
  · exact ⟨_, rfl⟩
  · rename_i t r hn
    rw [Cursor.words_of_next?_some hn] at h
    rw [if_neg (h t.text rfl)]
    exact ⟨_, rfl⟩

theorem literal_eq_failed_iff {word : Text} {e : ParseError} :
    literal word c = .failed e ↔ (c.next? = none ∧ e = endOfInput c) ∨ ∃ t rest, c.next? = some (t, rest) ∧
      t.text ≠ word ∧ e = .of .unexpectedToken c.source t.start
        ("expected ".toList ++ Text.quoted word ++ ", got ".toList ++ Text.quoted t.text) := by
  unfold literal
  constructor
  · intro h
    split at h
    · rename_i hn
      cases h
      exact Or.inl ⟨hn, rfl⟩
    · rename_i t r hn
      by_cases ht : t.text = word
      · rw [if_pos ht] at h
        cases h
      · rw [if_neg ht] at h
        cases h
        exact Or.inr ⟨t, r, hn, ht, rfl⟩
  · rintro (⟨hn, rfl⟩ | ⟨t, r, hn, ht, rfl⟩)
    · simp only [hn]
    · simp only [hn, if_neg ht]

theorem literal_done_or_failed (word : Text) (c : Cursor) :
    (∃ rest, literal word c = .done word rest) ∨ ∃ e, literal word c = .failed e := by
  unfold literal
  split
  · exact Or.inr ⟨_, rfl⟩
  · split
    · exact Or.inl ⟨_, rfl⟩
    · exact Or.inr ⟨_, rfl⟩

/-- **The alternatives are tried in order**: a later one only where the one before it failed. -/
theorem tryEach_cons_eq_done_iff {policy : Policy} {errors : List ParseError} {ps : List (Parser α)} {a : α} :
    tryEach policy errors (p :: ps) c = .done a rest ↔
      p c = .done a rest ∨ ∃ e, p c = .failed e ∧ tryEach policy (e :: errors) ps c = .done a rest := by
  simp only [tryEach]
  cases p c <;> simp

theorem tryEach_cons_eq_exhausted_iff {policy : Policy} {errors : List ParseError} {ps : List (Parser α)} :
    tryEach policy errors (p :: ps) c = .exhausted ↔
      p c = .exhausted ∨ ∃ e, p c = .failed e ∧ tryEach policy (e :: errors) ps c = .exhausted := by
  simp only [tryEach]
  cases p c <;> simp

/-- A choice runs out of nesting exactly when an alternative does after all in front of it have failed. -/
theorem tryEach_eq_exhausted_iff {policy : Policy} : ∀ {errors : List ParseError} {ps : List (Parser α)},
    tryEach policy errors ps c = .exhausted ↔
      ∃ pre p post, ps = pre ++ p :: post ∧ (∀ q ∈ pre, ∃ e, q c = .failed e) ∧ p c = .exhausted
  | _, [] => by simp [tryEach]
  | errors, p :: ps => by
    rw [tryEach_cons_eq_exhausted_iff]
    constructor
    · rintro (h | ⟨e, he, h⟩)
      · exact ⟨[], p, ps, rfl, by simp, h⟩
      · obtain ⟨pre, q, post, rfl, hpre, hq⟩ := tryEach_eq_exhausted_iff.1 h
        exact ⟨p :: pre, q, post, rfl, by simpa using ⟨⟨e, he⟩, hpre⟩, hq⟩
    · rintro ⟨pre, q, post, hps, hpre, hq⟩
      cases pre with
      | nil =>
        obtain ⟨rfl, rfl⟩ := List.cons.inj hps
        exact Or.inl hq
      | cons p' pre =>
        obtain ⟨rfl, rfl⟩ := List.cons.inj hps
        obtain ⟨e, he⟩ := hpre p List.mem_cons_self
        refine Or.inr ⟨e, he, tryEach_eq_exhausted_iff.2 ⟨pre, q, post, rfl, fun r hr => ?_, hq⟩⟩
        exact hpre r (List.mem_cons_of_mem p hr)

end Parser
end Licensing
