import Licensing.Proofs.Identifier.Places
import Licensing.Proofs.Parser.Forward
/-!
# Parsers see words only

Two cursors with the same words in front of them may differ in spaces, in every offset and in all that lies behind them.
A parser that sees words only (`SeesWords`) answers from both in parallel (`Outcome.Parallel`): with one value behind
equally many tokens, with one fault at places that correspond (`Cursor.SameFault`), or by running out of nesting.
Every combinator keeps this.
-/
namespace Licensing

namespace Cursor

variable {c d : Cursor}

/-- Two places that correspond, each an offset of its own source: the ends of the sources, or places equally far
behind the first characters of the tokens with one index, no farther than the ends of these tokens. -/
inductive SamePlace (c d : Cursor) : Int → Int → Prop
  | ends : SamePlace c d c.source.length d.source.length
  | inside {i k : Nat} {t u : Token} (ht : c.tokens[i]? = some t) (hu : d.tokens[i]? = some u)
      (hk : k ≤ t.text.length ∧ k ≤ u.text.length) : SamePlace c d (t.start + k) (u.start + k)

/-- One fault, seen from two cursors: the errors differ only in the sources that they quote and in the offsets of
places that correspond. -/
structure SameFault (c d : Cursor) (e f : ParseError) : Prop where
  kind : e.kind = f.kind
  detail : e.detail = f.detail
  left : e.expression = c.source
  right : f.expression = d.source
  place : SamePlace c d e.position f.position

theorem Passes.getElem?_add {mid : Cursor} {ts : List Token} (h : c.Passes ts mid) (i : Nat) :
    c.tokens[ts.length + i]? = mid.tokens[i]? := by
  rw [h.tokens_eq, List.getElem?_append_right (Nat.le_add_right _ _), Nat.add_sub_cancel_left]

/-- Places that correspond from two cursors on also do so from cursors equally many tokens before them. -/
theorem SamePlace.behind {mid mid' : Cursor} {ts us : List Token} {x y : Int} (hc : c.Passes ts mid)
    (hd : d.Passes us mid') (hlen : ts.length = us.length) (h : SamePlace mid mid' x y) : SamePlace c d x y := by
  cases h with
  | ends =>
    rw [hc.source_eq, hd.source_eq]
    exact .ends
  | @inside i k t u ht hu hk =>
    rw [← hc.getElem?_add] at ht
    rw [← hd.getElem?_add, ← hlen] at hu
    exact .inside ht hu hk

theorem SameFault.behind {mid mid' : Cursor} {ts us : List Token} {e f : ParseError} (hc : c.Passes ts mid)
    (hd : d.Passes us mid') (hlen : ts.length = us.length) (h : SameFault mid mid' e f) : SameFault c d e f :=
  ⟨h.kind, h.detail, h.left.trans hc.source_eq, h.right.trans hd.source_eq, h.place.behind hc hd hlen⟩

/-- Cursors with the same words are both at an end, or are both in front of a token with one text. -/
theorem next?_of_words_eq (h : c.words = d.words) :
    (c.next? = none ∧ d.next? = none) ∨ ∃ t u c' d', c.next? = some (t, c') ∧ d.next? = some (u, d') ∧
      t.text = u.text := by
  cases hd : d.next? with
  | none =>
    rw [words_of_next?_none hd] at h
    exact .inl ⟨next?_of_words_nil h, rfl⟩
  | some p =>
    rw [words_of_next?_some hd] at h
    obtain ⟨t, c', hc, ht, -⟩ := next?_of_words_cons h
    exact .inr ⟨t, p.1, c', p.2, hc, rfl, ht⟩

theorem getElem?_zero_of_next?_some {rest : Cursor} {t : Token} (h : c.next? = some (t, rest)) :
    c.tokens[0]? = some t := by
  rw [tokens_eq, h, List.getElem?_cons_zero]

theorem peek?_of_next?_some {rest : Cursor} {t : Token} (h : c.next? = some (t, rest)) : c.peek? = some t := by
  obtain ⟨u, hu, he⟩ := Option.map_eq_some_iff.1 h
  rw [hu, (Prod.mk.inj he).1]

theorem peek?_of_next?_none (h : c.next? = none) : c.peek? = none := Option.map_eq_none_iff.1 h

/-- Places equally far behind the first characters of the next tokens correspond. -/
theorem samePlace_of_next? {c' d' : Cursor} {t u : Token} (hc : c.next? = some (t, c')) (hd : d.next? = some (u, d'))
    (htu : t.text = u.text) {k : Nat} (hk : k ≤ t.text.length) : SamePlace c d (t.start + k) (u.start + k) :=
  .inside (getElem?_zero_of_next?_some hc) (getElem?_zero_of_next?_some hd) ⟨hk, htu ▸ hk⟩

theorem samePlace_starts {c' d' : Cursor} {t u : Token} (hc : c.next? = some (t, c')) (hd : d.next? = some (u, d'))
    (htu : t.text = u.text) : SamePlace c d t.start u.start := by
  simpa using samePlace_of_next? hc hd htu (Nat.zero_le _)

theorem SamePlace.sameFault {x y : Int} (h : SamePlace c d x y) (kind : ErrorKind) (detail : Text) :
    SameFault c d (.of kind c.source x detail) (.of kind d.source y detail) :=
  ⟨rfl, rfl, rfl, rfl, h⟩

end Cursor

open Cursor (SameFault SamePlace)

/-- The answers of a parser from two cursors are one and the same but for offsets: the same value behind tokens with
the same texts, the same fault, or no nesting left. -/
inductive Outcome.Parallel {α : Type} (c d : Cursor) : Outcome α → Outcome α → Prop
  | done {a : α} {ts us : List Token} {rest rest' : Cursor} (hc : c.Passes ts rest) (hd : d.Passes us rest')
      (hw : ts.map (·.text) = us.map (·.text)) : Parallel c d (.done a rest) (.done a rest')
  | failed {e f : ParseError} (h : SameFault c d e f) : Parallel c d (.failed e) (.failed f)
  | exhausted : Parallel c d .exhausted .exhausted

open Outcome (Parallel)

theorem Outcome.Parallel.behind {α : Type} {c d mid mid' : Cursor} {ts us : List Token} {x y : Outcome α}
    (hc : c.Passes ts mid) (hd : d.Passes us mid') (hw : ts.map (·.text) = us.map (·.text))
    (h : Parallel mid mid' x y) : Parallel c d x y := by
  cases h with
  | done hc' hd' hw' => exact .done (hc.append hc') (hd.append hd') (by rw [List.map_append, List.map_append, hw, hw'])
  | failed h => exact .failed (h.behind hc hd (by simpa using congrArg List.length hw))
  | exhausted => exact .exhausted

namespace Parser

variable {α β : Type} {p : Parser α} {q : Parser β}

/-- From cursors with the same words in front of them the parser gives parallel answers. -/
def SeesWords (p : Parser α) : Prop := ∀ ⦃c d : Cursor⦄, c.words = d.words → Parallel c d (p c) (p d)

theorem seesWords_pure (a : α) : SeesWords (pure a) := fun _ _ _ => .done .stay .stay rfl

theorem seesWords_exhausted : SeesWords (exhausted : Parser α) := fun _ _ _ => .exhausted

/-- Behind equal values and equally many tokens the words are again the same. -/
theorem seesWords_bind {f : α → Parser β} (hp : SeesWords p) (hf : ∀ a, SeesWords (f a)) : SeesWords (p.bind f) := by
  intro c d h
  have hpar := hp h
  unfold bind
  generalize p c = x at hpar ⊢
  generalize p d = y at hpar ⊢
  cases hpar with
  | @done a ts us rest rest' hc hd hw =>
    have hrest : rest.words = rest'.words := by
      rw [hc.words_eq, hd.words_eq, hw] at h
      exact List.append_cancel_left h
    exact (hf a hrest).behind hc hd hw
  | failed h => exact .failed h
  | exhausted => exact .exhausted

theorem seesWords_map (f : α → β) (hp : SeesWords p) : SeesWords (p.map f) :=
  seesWords_bind hp fun _ => seesWords_pure _

theorem seesWords_both (hp : SeesWords p) (hq : SeesWords q) : SeesWords (p.both q) :=
  seesWords_bind hp fun _ => seesWords_map _ hq

theorem seesWords_seq : ∀ {ps : List (Parser α)}, (∀ p ∈ ps, SeesWords p) → SeesWords (seq ps)
  | [], _ => seesWords_pure []
  | p :: _, h =>
    seesWords_bind (h p List.mem_cons_self) fun _ =>
      seesWords_map _ (seesWords_seq fun q hq => h q (List.mem_cons_of_mem p hq))

theorem sameFault_endOfInput (c d : Cursor) : SameFault c d (endOfInput c) (endOfInput d) :=
  SamePlace.ends.sameFault _ _

/-! ## One token -/

theorem seesWords_literal (word : Text) : SeesWords (literal word) := by
  intro c d h
  unfold literal
  rcases Cursor.next?_of_words_eq h with ⟨hc, hd⟩ | ⟨t, u, c', d', hc, hd, htu⟩
  · rw [hc, hd]
    exact .failed (sameFault_endOfInput c d)
  · rw [hc, hd]
    dsimp only
    rw [htu]
    split
    · exact .done (.one hc) (.one hd) (by simp [htu])
    · exact .failed ((Cursor.samePlace_starts hc hd htu).sameFault _ _)

/-- The fault of a check lies in the token, so its place moves with the token. -/
theorem seesWords_oneToken {check : Text → Except ParseError α} (hcheck : Identifier.PointsInside check) :
    SeesWords (oneToken check) := by
  intro c d h
  unfold oneToken
  rcases Cursor.next?_of_words_eq h with ⟨hc, hd⟩ | ⟨t, u, c', d', hc, hd, htu⟩
  · rw [hc, hd]
    exact .failed (sameFault_endOfInput c d)
  · rw [hc, hd]
    dsimp only
    rw [← htu]
    cases he : check t.text with
    | ok a => exact .done (.one hc) (.one hd) (by simp [htu])
    | error e =>
      obtain ⟨k, hk, hp⟩ := (hcheck he).position
      simp only [ParseError.relocate, hp]
      exact .failed ((Cursor.samePlace_of_next? hc hd htu hk).sameFault _ _)

/-! ## Choices -/

theorem sameFault_choiceError {c d : Cursor} (h : c.words = d.words) (kind : ErrorKind) (detail : Text) :
    SameFault c d (choiceError kind detail c) (choiceError kind detail d) := by
  unfold choiceError
  rcases Cursor.next?_of_words_eq h with ⟨hc, hd⟩ | ⟨t, u, c', d', hc, hd, htu⟩
  · rw [Cursor.peek?_of_next?_none hc, Cursor.peek?_of_next?_none hd]
    exact SamePlace.ends.sameFault _ _
  · rw [Cursor.peek?_of_next?_some hc, Cursor.peek?_of_next?_some hd]
    dsimp only
    rw [htu]
    exact (Cursor.samePlace_starts hc hd htu).sameFault _ _

theorem all_kind_eq {c d : Cursor} (kind : ErrorKind) {es fs : List ParseError}
    (h : List.Forall₂ (SameFault c d) es fs) : es.all (·.kind = kind) = fs.all (·.kind = kind) := by
  induction h with
  | nil => rfl
  | cons h _ ih => rw [List.all_cons, List.all_cons, h.kind, ih]

/-- Which error stands for a choice depends on the kinds of the errors and on the next token alone. -/
theorem sameFault_report {c d : Cursor} (h : c.words = d.words) (policy : Policy) {es fs : List ParseError}
    (hs : List.Forall₂ (SameFault c d) es fs) : SameFault c d (policy.report es c) (policy.report fs d) := by
  cases policy with
  | last =>
    cases hs with
    | nil => exact sameFault_endOfInput c d
    | cons h _ => exact h
  | replace kind detail =>
    have hall := all_kind_eq .endOfInput hs
    cases hs with
    | nil => exact sameFault_choiceError h kind detail
    | cons he _ =>
      simp only [Policy.report, hall]
      split
      · exact he
      · exact sameFault_choiceError h kind detail

theorem parallel_tryEach {c d : Cursor} (h : c.words = d.words) (policy : Policy) : ∀ {ps : List (Parser α)}
    {es fs : List ParseError}, (∀ p ∈ ps, SeesWords p) → List.Forall₂ (SameFault c d) es fs →
      Parallel c d (tryEach policy es ps c) (tryEach policy fs ps d)
  | [], _, _, _, hs => .failed (sameFault_report h policy hs)
  | p :: ps, es, fs, hps, hs => by
    have hpar := hps p List.mem_cons_self h
    unfold tryEach
    generalize p c = x at hpar ⊢
    generalize p d = y at hpar ⊢
    cases hpar with
    | done hc hd hw => exact .done hc hd hw
    | failed he => exact parallel_tryEach h policy (fun q hq => hps q (List.mem_cons_of_mem p hq)) (.cons he hs)
    | exhausted => exact .exhausted

theorem seesWords_oneOf (policy : Policy) {ps : List (Parser α)} (hps : ∀ p ∈ ps, SeesWords p) :
    SeesWords (oneOf policy ps) :=
  fun _ _ h => parallel_tryEach h policy hps .nil

theorem seesWords_maybe (hp : SeesWords p) : SeesWords (maybe p) := by
  intro c d h
  have hpar := hp h
  unfold maybe
  generalize p c = x at hpar ⊢
  generalize p d = y at hpar ⊢
  cases hpar with
  | done hc hd hw => exact .done hc hd hw
  | failed _ => exact .done .stay .stay rfl
  | exhausted => exact .exhausted

end Parser
end Licensing
