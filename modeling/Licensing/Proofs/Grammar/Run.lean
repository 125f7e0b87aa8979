import Licensing.Proofs.Grammar.Acceptance
import Licensing.Proofs.Parser.Forward
/-!
# Runs without a limit

A run of the grammar that never gives up, as a relation: the alternatives are tried in their order, an operator whose
second operand cannot be read is given back, and the run says how many groups it had open at once.  Every cursor has
exactly one run (`exists_run`, `Run.unique`).  A parser that opens at most `n` groups gives the answer of the run if the
run opens no more than that, and else runs out of nesting (`Run.needs`).  A run never has more groups open than a count
of the parentheses in front of it says (`Run.add_depth_le`).
-/
namespace Licensing
namespace Grammar

open Licensing.Parser

inductive Operator
  | or
  | and
  deriving DecidableEq, Repr

namespace Operator

def word : Operator → Text
  | .or => "OR".toList
  | .and => "AND".toList

def join : Operator → Expr → Expr → Expr
  | .or => Expr.or
  | .and => Expr.and

/-- The level that the operator makes. -/
def level : Operator → Level
  | .or => .compound
  | .and => .conjunction

/-- The level of its operands. -/
def operand : Operator → Level
  | .or => .conjunction
  | .and => .primary

theorem unbroken_word (o : Operator) : Token.Unbroken o.word := by
  cases o with
  | or => exact unbroken_or
  | and => exact unbroken_and

theorem parser_level (o : Operator) (n : Nat) :
    o.level.parser n = Grammar.level o.word o.join (o.operand.parser n) := by
  cases o <;> rfl

end Operator

/-- How reading a level at a cursor ends when no limit is set, and the largest number of groups that are open at once
on the way. -/
inductive Run : Level → Cursor → Outcome Expr → Nat → Prop
  -- a primary expression: a license with an exception, else a license, else a group
  | excepted {c rest : Cursor} {e : Expr} : withException c = .done e rest → Run .primary c (.done e rest) 0
  | license {c rest : Cursor} {s : Simple} {f : ParseError} :
      withException c = .failed f → simple c = .done s rest → Run .primary c (.done (.simple s) rest) 0
  | unopened {c : Cursor} {e f g : ParseError} :
      withException c = .failed f → simple c = .failed g → literal "(".toList c = .failed e →
      Run .primary c (.failed e) 0
  | broken {c c₁ : Cursor} {e f g : ParseError} {w : Text} {d : Nat} :
      withException c = .failed f → simple c = .failed g → literal "(".toList c = .done w c₁ →
      Run .compound c₁ (.failed e) d → Run .primary c (.failed e) (d + 1)
  | unclosed {c c₁ c₂ : Cursor} {e : Expr} {f g h : ParseError} {w : Text} {d : Nat} :
      withException c = .failed f → simple c = .failed g → literal "(".toList c = .done w c₁ →
      Run .compound c₁ (.done e c₂) d → literal ")".toList c₂ = .failed h → Run .primary c (.failed h) (d + 1)
  | group {c c₁ c₂ rest : Cursor} {e : Expr} {f g : ParseError} {w w' : Text} {d : Nat} :
      withException c = .failed f → simple c = .failed g → literal "(".toList c = .done w c₁ →
      Run .compound c₁ (.done e c₂) d → literal ")".toList c₂ = .done w' rest → Run .primary c (.done e rest) (d + 1)
  -- an operand, and perhaps an operator with a second one
  | missing (o : Operator) {c : Cursor} {f : ParseError} {d : Nat} :
      Run o.operand c (.failed f) d → Run o.level c (.failed f) d
  | alone (o : Operator) {c c₁ : Cursor} {a : Expr} {f : ParseError} {d : Nat} :
      Run o.operand c (.done a c₁) d → literal o.word c₁ = .failed f → Run o.level c (.done a c₁) d
  | givenBack (o : Operator) {c c₁ c₂ : Cursor} {a : Expr} {f : ParseError} {w : Text} {d d' : Nat} :
      Run o.operand c (.done a c₁) d → literal o.word c₁ = .done w c₂ → Run o.operand c₂ (.failed f) d' →
      Run o.level c (.done a c₁) (max d d')
  | joined (o : Operator) {c c₁ c₂ rest : Cursor} {a b : Expr} {w : Text} {d d' : Nat} :
      Run o.operand c (.done a c₁) d → literal o.word c₁ = .done w c₂ → Run o.operand c₂ (.done b rest) d' →
      Run o.level c (.done (o.join a b) rest) (max d d')

variable {l : Level} {c rest : Cursor} {r : Outcome Expr} {e : Expr} {d : Nat}

theorem Run.ne_exhausted (h : Run l c r d) : r ≠ .exhausted := by
  cases h <;> simp

/-! ## The parsers that open a bounded number of groups -/

/-- What may stand in a group, where no more than `n` groups may be open. -/
def inner : Nat → Parser Expr
  | 0 => exhausted
  | n + 1 => compound n

theorem group_eq (n : Nat) : group n = parenthesized (inner n) := by
  cases n <;> rfl

/-- How a group ends, given how its inside ended. -/
def close : Outcome Expr → Outcome Expr
  | .done e c => match literal ")".toList c with
    | .done _ rest => .done e rest
    | .failed f => .failed f
    | .exhausted => .exhausted
  | r => r

theorem parenthesized_eq {p : Parser Expr} {w : Text} {c₁ : Cursor} (h : literal "(".toList c = .done w c₁) :
    parenthesized p c = close (p c₁) := by
  unfold parenthesized
  simp only [Parser.map, both, Parser.bind, h]
  cases p c₁ with
  | done e c₂ =>
    rw [close]
    dsimp only
    cases literal ")".toList c₂ <;> rfl
  | failed f => rfl
  | exhausted => rfl

/-- How a level ends behind the operator, given how the second operand ended. -/
def Operator.second (o : Operator) (a : Expr) (c : Cursor) : Outcome Expr → Outcome Expr
  | .done b rest => .done (o.join a b) rest
  | .failed _ => .done a c
  | .exhausted => .exhausted

theorem Operator.parser_of_literal (o : Operator) {n : Nat} {a : Expr} {w : Text} {c₁ c₂ : Cursor}
    (h : o.operand.parser n c = .done a c₁) (hw : literal o.word c₁ = .done w c₂) :
    o.level.parser n c = o.second a c₁ (o.operand.parser n c₂) := by
  rw [o.parser_level]
  simp only [Grammar.level, Parser.map, both, Parser.bind, maybe, h, hw]
  cases o.operand.parser n c₂ <;> rfl

theorem Operator.parser_of_failed (o : Operator) {n : Nat} {a : Expr} {f : ParseError} {c₁ : Cursor}
    (h : o.operand.parser n c = .done a c₁) (hw : literal o.word c₁ = .failed f) :
    o.level.parser n c = .done a c₁ := by
  rw [o.parser_level]
  simp only [Grammar.level, Parser.map, both, Parser.bind, maybe, h, hw]
  rfl

/-- From limit `d` on, the parser of a level ends like this at the cursor, and below it runs out of nesting. -/
def Needs (l : Level) (c : Cursor) (r : Outcome Expr) (d : Nat) : Prop :=
  ∀ n, l.parser n c = if d ≤ n then r else .exhausted

theorem Needs.inner (h : Needs .compound c r d) (n : Nat) : inner n c = if d + 1 ≤ n then r else .exhausted := by
  cases n with
  | zero => rfl
  | succ m =>
    rw [Grammar.inner, compound_eq, h m]
    simp only [Nat.add_le_add_iff_right]

/-- A group needs one more than what stands in it. -/
theorem Needs.close {f g : ParseError} {w : Text} {c₁ : Cursor} (hw : withException c = .failed f)
    (hs : simple c = .failed g) (ho : literal "(".toList c = .done w c₁) (h : Needs .compound c₁ r d) :
    Needs .primary c (close r) (d + 1) := by
  intro n
  rw [Level.parser, primary_of_no_license hw hs, group_eq, parenthesized_eq ho, h.inner n]
  by_cases hn : d + 1 ≤ n
  · rw [if_pos hn, if_pos hn]
  · rw [if_neg hn, if_neg hn]
    rfl

/-- A level needs as much as its first operand where that alone decides how it ends. -/
theorem Needs.first (o : Operator) {q : Outcome Expr} (h : Needs o.operand c q d)
    (hq : ∀ n, o.operand.parser n c = q → o.level.parser n c = r) : Needs o.level c r d := by
  intro n
  by_cases hn : d ≤ n
  · rw [if_pos hn]
    exact hq n (by rw [h n, if_pos hn])
  · have hc : o.operand.parser n c = .exhausted := by rw [h n, if_neg hn]
    rw [if_neg hn, o.parser_level]
    exact level_eq_exhausted hc

/-- With an operator behind its first operand, a level needs as much as the more demanding one of the two. -/
theorem Needs.second (o : Operator) {a : Expr} {w : Text} {c₁ c₂ : Cursor} {d' : Nat}
    (h : Needs o.operand c (.done a c₁) d) (hw : literal o.word c₁ = .done w c₂) (h' : Needs o.operand c₂ r d') :
    Needs o.level c (o.second a c₁ r) (max d d') := by
  intro n
  by_cases hd : d ≤ n
  · have hc : o.operand.parser n c = .done a c₁ := by rw [h n, if_pos hd]
    rw [o.parser_of_literal hc hw, h' n]
    by_cases hd' : d' ≤ n
    · rw [if_pos hd', if_pos (Nat.max_le.2 ⟨hd, hd'⟩)]
    · rw [if_neg hd', if_neg fun hm => hd' (Nat.max_le.1 hm).2]
      rfl
  · have hc : o.operand.parser n c = .exhausted := by rw [h n, if_neg hd]
    rw [if_neg fun hm => hd (Nat.max_le.1 hm).1, o.parser_level]
    exact level_eq_exhausted hc

/-- **A parser with a limit gives the answer of the run, or runs out of nesting**: the one if the run opens no more
groups at once than the limit allows, and the other if it opens more. -/
theorem Run.needs (h : Run l c r d) : Needs l c r d := by
  induction h with
  | excepted hw =>
    intro n
    rw [if_pos (Nat.zero_le n)]
    simp only [Level.parser, primary, oneOf, tryEach, hw]
  | license hw hs =>
    intro n
    have hs' : simple.map Expr.simple _ = _ := map_eq_done_iff.2 ⟨_, hs, rfl⟩
    rw [if_pos (Nat.zero_le n)]
    simp only [Level.parser, primary, oneOf, tryEach, hw, hs']
  | unopened hw hs ho =>
    intro n
    rw [if_pos (Nat.zero_le n), Level.parser, primary_of_no_license hw hs, group_eq]
    exact map_eq_failed (both_eq_failed_left ho)
  | broken hw hs ho _ ih => exact ih.close hw hs ho
  | unclosed hw hs ho _ hc ih =>
    have := ih.close hw hs ho
    rwa [close, hc] at this
  | group hw hs ho _ hc ih =>
    have := ih.close hw hs ho
    rwa [close, hc] at this
  | missing o _ ih =>
    refine ih.first o fun n hc => ?_
    rw [o.parser_level]
    exact map_eq_failed (both_eq_failed_left hc)
  | alone o _ hw ih => exact ih.first o fun n hc => o.parser_of_failed hc hw
  | givenBack o _ hw _ ih ih' => exact ih.second o hw ih'
  | joined o _ hw _ ih ih' => exact ih.second o hw ih'

theorem Run.parser_eq (h : Run l c r d) {n : Nat} (hn : d ≤ n) : l.parser n c = r := by
  rw [h.needs n, if_pos hn]

theorem Run.parser_eq_exhausted_iff (h : Run l c r d) {n : Nat} : l.parser n c = .exhausted ↔ n < d := by
  rw [h.needs n]
  by_cases hn : d ≤ n
  · rw [if_pos hn]
    exact ⟨fun hr => absurd hr h.ne_exhausted, fun hlt => absurd hn (Nat.not_le.2 hlt)⟩
  · rw [if_neg hn]
    exact ⟨fun _ => Nat.not_le.1 hn, fun _ => rfl⟩

/-- **A cursor has one run**: a limit that lets two runs through gives the answer of both, and none of them opens more
groups than the other. -/
theorem Run.unique {r' : Outcome Expr} {d' : Nat} (h : Run l c r d) (h' : Run l c r' d') : r = r' ∧ d = d' := by
  have hr : r = r' := (h.parser_eq (Nat.le_max_left d d')).symm.trans (h'.parser_eq (Nat.le_max_right d d'))
  have hd (n : Nat) : n < d ↔ n < d' := h.parser_eq_exhausted_iff.symm.trans h'.parser_eq_exhausted_iff
  refine ⟨hr, Nat.le_antisymm ?_ ?_⟩
  · exact Nat.not_lt.1 fun hlt => Nat.lt_irrefl d' ((hd d').1 hlt)
  · exact Nat.not_lt.1 fun hlt => Nat.lt_irrefl d ((hd d).2 hlt)

/-! ## What a run reads -/

theorem forward_simple : Forward simple := by
  refine forward_oneOf fun p hp => ?_
  simp only [List.mem_cons, List.not_mem_nil, or_false] at hp
  rcases hp with rfl | rfl | rfl <;> exact forward_oneToken _

theorem forward_withException : Forward withException :=
  forward_map (forward_both forward_simple (forward_both (forward_literal _) (forward_oneToken _)))

theorem forward_primary {p : Parser Expr} (h : Forward p) : Forward (primary p) := by
  refine forward_oneOf fun q hq => ?_
  rcases List.mem_pair.1 hq with rfl | rfl
  · refine forward_oneOf fun q hq => ?_
    rcases List.mem_pair.1 hq with rfl | rfl
    · exact forward_withException
    · exact forward_map forward_simple
  · exact h

theorem forward_level {p : Parser Expr} (op : Text) (join : Expr → Expr → Expr) (h : Forward p) :
    Forward (level op join p) :=
  forward_map (forward_both h (forward_maybe (forward_both (forward_literal op) h)))

theorem forward_levels {p : Parser Expr} (h : Forward p) : Forward (levels p) :=
  forward_level _ _ (forward_level _ _ (forward_primary h))

theorem forward_parenthesized {p : Parser Expr} (h : Forward p) : Forward (parenthesized p) :=
  forward_map (forward_both (forward_literal _) (forward_both h (forward_literal _)))

theorem forward_exhausted {α : Type} : Forward (exhausted : Parser α) := fun _ _ _ h => nomatch h

theorem forward_group : ∀ n : Nat, Forward (group n)
  | 0 => forward_parenthesized forward_exhausted
  | n + 1 => by
    rw [group, compound_eq]
    exact forward_parenthesized (forward_levels (forward_group n))

theorem Level.forward (n : Nat) : ∀ l : Level, Forward (l.parser n)
  | .primary => forward_primary (forward_group n)
  | .conjunction => forward_level _ _ (forward_primary (forward_group n))
  | .compound => forward_levels (forward_group n)

theorem reads_group : ∀ n : Nat, Reads (group n) .primary n
  | 0 => reads_no_group
  | n + 1 => reads_parenthesized (reads_compound n)

theorem Level.reads (n : Nat) : ∀ l : Level, Reads (l.parser n) l n
  | .primary => reads_primary (reads_group n)
  | .conjunction => reads_level unbroken_and .conjunct .and (reads_primary (reads_group n))
  | .compound => reads_levels (reads_group n)

/-- **A run reads a sentence of its level.** -/
theorem Run.derives (h : Run l c (.done e rest) d) : ∃ ts, c.Passes ts rest ∧ Derives l (ts.map (·.text)) e := by
  have hp := h.parser_eq (Nat.le_refl d)
  obtain ⟨ts, hts⟩ := l.forward d hp
  obtain ⟨us, hus, hd, -⟩ := l.reads d hp
  rw [hts.words_eq, List.append_cancel_right_eq] at hus
  exact ⟨ts, hts, hus ▸ hd⟩

/-! ## Every cursor has a run -/

theorem Operator.exists_run (o : Operator) (h : ∀ c' : Cursor, c'.words.length ≤ c.words.length →
    ∃ r d, Run o.operand c' r d) : ∃ r d, Run o.level c r d := by
  obtain ⟨r, d, hr⟩ := h c (Nat.le_refl _)
  cases r with
  | exhausted => exact absurd rfl hr.ne_exhausted
  | failed f => exact ⟨_, _, .missing o hr⟩
  | done a c₁ =>
    rcases literal_done_or_failed o.word c₁ with ⟨c₂, hw⟩ | ⟨f, hw⟩
    · obtain ⟨ts, hts, -⟩ := hr.derives
      obtain ⟨us, hus⟩ := forward_literal o.word hw
      obtain ⟨r', d', hr'⟩ := h c₂ (Nat.le_trans hus.length_words_le hts.length_words_le)
      cases r' with
      | exhausted => exact absurd rfl hr'.ne_exhausted
      | failed f => exact ⟨_, _, .givenBack o hr hw hr'⟩
      | done b rest => exact ⟨_, _, .joined o hr hw hr'⟩
    · exact ⟨_, _, .alone o hr hw⟩

theorem withException_ne_exhausted : withException c ≠ .exhausted := by
  intro h
  unfold withException at h
  simp only [map_eq_exhausted_iff, both_eq_exhausted_iff, oneToken_ne_exhausted, and_false, exists_false, or_false] at h
  rcases h with h | ⟨s, c₁, -, h⟩
  · exact simple_ne_exhausted h
  · rcases literal_done_or_failed "WITH".toList c₁ with ⟨rest, hw⟩ | ⟨f, hw⟩ <;> (rw [hw] at h; cases h)

theorem exists_run_primary (h : ∀ c' : Cursor, c'.words.length < c.words.length → ∃ r d, Run .compound c' r d) :
    ∃ r d, Run .primary c r d := by
  cases hw : withException c with
  | exhausted => exact absurd hw withException_ne_exhausted
  | done e rest => exact ⟨_, _, .excepted hw⟩
  | failed f =>
    cases hs : simple c with
    | exhausted => exact absurd hs simple_ne_exhausted
    | done s rest => exact ⟨_, _, .license hw hs⟩
    | failed g =>
      rcases literal_done_or_failed "(".toList c with ⟨c₁, ho⟩ | ⟨e, ho⟩
      · obtain ⟨-, t, hn, -⟩ := literal_eq_done_iff.1 ho
        obtain ⟨r, d, hr⟩ := h c₁ (Cursor.length_words_of_next?_some hn)
        cases r with
        | exhausted => exact absurd rfl hr.ne_exhausted
        | failed e => exact ⟨_, _, .broken hw hs ho hr⟩
        | done e c₂ =>
          rcases literal_done_or_failed ")".toList c₂ with ⟨rest, hc⟩ | ⟨e, hc⟩
          · exact ⟨_, _, .group hw hs ho hr hc⟩
          · exact ⟨_, _, .unclosed hw hs ho hr hc⟩
      · exact ⟨_, _, .unopened hw hs ho⟩

/-- **Every cursor has a run**, by recursion on the number of tokens in front of it: a group begins behind a token. -/
theorem exists_run (c : Cursor) : ∃ r d, Run .compound c r d := by
  have primary (c' : Cursor) (hc' : c'.words.length ≤ c.words.length) : ∃ r d, Run .primary c' r d :=
    exists_run_primary fun c'' _ => exists_run c''
  have conjunction (c' : Cursor) (hc' : c'.words.length ≤ c.words.length) : ∃ r d, Run .conjunction c' r d :=
    Operator.and.exists_run fun c'' h => primary c'' (Nat.le_trans h hc')
  exact Operator.or.exists_run conjunction
termination_by c.words.length
decreasing_by omega

/-! ## How many groups a run opens -/

theorem deepest_append_le {ts : List Text} (h : Balanced ts) (k : Nat) (us : List Text) :
    deepest k us ≤ deepest k (ts ++ us) := by
  rw [h]
  exact Nat.le_max_right _ _

/-- The count in front of a second operand is no higher than in front of the first. -/
theorem Run.deepest_second_le (o : Operator) {a : Expr} {w : Text} {c₁ c₂ : Cursor}
    (h : Run o.operand c (.done a c₁) d) (hw : literal o.word c₁ = .done w c₂) (k : Nat) :
    deepest k c₂.words ≤ deepest k c.words := by
  obtain ⟨ts, hts, hd⟩ := h.derives
  have hle := deepest_append_le hd.balanced k c₁.words
  rwa [← hts.words_eq, words_of_literal hw, deepest_unbroken o.unbroken_word] at hle

theorem deepest_of_open {w : Text} {c₁ : Cursor} (h : literal "(".toList c = .done w c₁) (k : Nat) :
    deepest k c.words = deepest (k + 1) c₁.words := by
  rw [words_of_literal h]
  exact deepest_open k c₁.words

/-- **A run opens no more groups than the parentheses in front of it say**, however they are balanced: behind `k` that
are open already, the count of all the tokens that follow comes at least as high as the run. -/
theorem Run.add_depth_le (h : Run l c r d) : ∀ k, k + d ≤ deepest k c.words := by
  induction h with
  | excepted | license | unopened => exact fun k => le_deepest k _
  | broken _ _ ho _ ih | unclosed _ _ ho _ _ ih | group _ _ ho _ _ ih =>
    intro k
    have := ih (k + 1)
    rw [deepest_of_open ho]
    omega
  | missing _ _ ih | alone _ _ _ ih => exact ih
  | givenBack o h hw _ ih ih' | joined o h hw _ ih ih' =>
    intro k
    have h₁ := ih k
    have h₂ := ih' k
    have h₃ := h.deepest_second_le o hw k
    omega

theorem Run.depth_le_nesting (h : Run l c r d) : d ≤ nesting c.words := by
  have := h.add_depth_le 0
  rwa [Nat.zero_add] at this

end Grammar
end Licensing
