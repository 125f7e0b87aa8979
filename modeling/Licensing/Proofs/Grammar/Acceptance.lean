import Licensing.Grammar
import Licensing.Proofs.Grammar.Nesting
import Licensing.Proofs.Parser.Outcomes
/-!
# Acceptance

The parser accepts exactly the sentences of the grammar.  What it reads is a sentence (`reads_compound`).  A sentence
that stands at the cursor is read as a whole, provided that what follows cannot carry it on and that its nesting is
within the parser's reach (`Derives.accepted`).  Since a parser is a function, it follows that a sentence has one
expression (`Derives.unique`).
-/
namespace Licensing
namespace Grammar

open Licensing.Parser
open Registry (Names licenses exceptions)

variable {c rest : Cursor}

/-! ## Licenses -/

/-- A token stands for the license that the first successful check yields. -/
theorem leaf_iff {t : Text} {s : Simple} :
    Leaf t s ↔ Identifier.licenseId t = .ok s ∨
      ((∀ r, Identifier.licenseId t ≠ .ok r) ∧ (Identifier.licenseIdAndPlus t = .ok s ∨
        ((∀ r, Identifier.licenseIdAndPlus t ≠ .ok r) ∧ Identifier.licenseRef t = .ok s))) := by
  have hid : (∀ r, Identifier.licenseId t ≠ .ok r) ↔ ∀ n, ¬ Names licenses t n := by
    constructor
    · intro h n hn
      exact h _ (Identifier.licenseId_eq_ok_iff.2 ⟨n, hn, rfl⟩)
    · intro h r hr
      obtain ⟨n, hn, -⟩ := Identifier.licenseId_eq_ok_iff.1 hr
      exact h n hn
  have hplus : (∀ r, Identifier.licenseIdAndPlus t ≠ .ok r) ↔ ∀ u n, t = u ++ ['+'] → ¬ Names licenses u n := by
    constructor
    · intro h u n ht hn
      exact h _ (Identifier.licenseIdAndPlus_eq_ok_iff.2 ⟨u, n, ht, hn, rfl⟩)
    · intro h r hr
      obtain ⟨u, n, ht, hn, -⟩ := Identifier.licenseIdAndPlus_eq_ok_iff.1 hr
      exact h u n ht hn
  rw [hid, hplus]
  constructor
  · intro h
    cases h with
    | id hn => exact Or.inl (Identifier.licenseId_eq_ok_iff.2 ⟨_, hn, rfl⟩)
    | idAndPlus hno hn =>
      exact Or.inr ⟨hno, Or.inl (Identifier.licenseIdAndPlus_eq_ok_iff.2 ⟨_, _, rfl, hn, rfl⟩)⟩
    | ref hno hno' hs => exact Or.inr ⟨hno, Or.inr ⟨hno', Identifier.licenseRef_eq_ok_iff.2 ⟨rfl, hs⟩⟩⟩
  · rintro (h | ⟨hno, h | ⟨hplus, h⟩⟩)
    · obtain ⟨n, hn, rfl⟩ := Identifier.licenseId_eq_ok_iff.1 h
      exact .id hn
    · obtain ⟨u, n, rfl, hn, rfl⟩ := Identifier.licenseIdAndPlus_eq_ok_iff.1 h
      exact .idAndPlus hno hn
    · obtain ⟨rfl, hs⟩ := Identifier.licenseRef_eq_ok_iff.1 h
      exact .ref hno hplus hs

theorem simple_eq_done_iff {s : Simple} :
    simple c = .done s rest ↔ ∃ t, c.next? = some (t, rest) ∧ Leaf t.text s := by
  unfold simple oneOf
  simp only [leaf_iff, tryEach_cons_eq_done_iff, oneToken_eq_done_iff]
  constructor
  · rintro (⟨t, hn, h⟩ | ⟨e, hno, ⟨t, hn, h⟩ | ⟨e', hplus, ⟨t, hn, h⟩ | ⟨e'', -, h⟩⟩⟩)
    · exact ⟨t, hn, Or.inl h⟩
    · exact ⟨t, hn, Or.inr ⟨(oneToken_eq_failed_iff hn).1 ⟨e, hno⟩, Or.inl h⟩⟩
    · exact ⟨t, hn, Or.inr ⟨(oneToken_eq_failed_iff hn).1 ⟨e, hno⟩,
        Or.inr ⟨(oneToken_eq_failed_iff hn).1 ⟨e', hplus⟩, h⟩⟩⟩
    · cases h
  · rintro ⟨t, hn, h | ⟨hno, h | ⟨hplus, h⟩⟩⟩
    · exact Or.inl ⟨t, hn, h⟩
    · obtain ⟨e, he⟩ := (oneToken_eq_failed_iff hn).2 hno
      exact Or.inr ⟨e, he, Or.inl ⟨t, hn, h⟩⟩
    · obtain ⟨e, he⟩ := (oneToken_eq_failed_iff hn).2 hno
      obtain ⟨e', he'⟩ := (oneToken_eq_failed_iff hn).2 hplus
      exact Or.inr ⟨e, he, Or.inr ⟨e', he', Or.inl ⟨t, hn, h⟩⟩⟩

theorem simple_ne_exhausted : simple c ≠ .exhausted := by
  unfold simple oneOf
  simp only [ne_eq, tryEach_cons_eq_exhausted_iff, oneToken_ne_exhausted, false_or, not_exists, not_and]
  rintro e - e' - e'' - h
  cases h

theorem words_of_simple {s : Simple} (h : simple c = .done s rest) : ∃ t, c.words = t :: rest.words ∧ Leaf t s := by
  obtain ⟨t, hn, hl⟩ := simple_eq_done_iff.1 h
  exact ⟨t.text, Cursor.words_of_next?_some hn, hl⟩

theorem simple_of_words {t : Text} {ts : List Text} {s : Simple} (hc : c.words = t :: ts) (hl : Leaf t s) :
    ∃ rest, simple c = .done s rest ∧ rest.words = ts := by
  obtain ⟨w, rest, hn, rfl, hr⟩ := Cursor.next?_of_words_cons hc
  exact ⟨rest, simple_eq_done_iff.2 ⟨w, hn, hl⟩, hr⟩

theorem simple_eq_failed {t : Text} {ts : List Text} (hc : c.words = t :: ts) (hl : ∀ s, ¬ Leaf t s) :
    ∃ e, simple c = .failed e := by
  cases h : simple c with
  | done s rest =>
    obtain ⟨u, hu, hs⟩ := words_of_simple h
    rw [hc, List.cons.injEq] at hu
    exact absurd (hu.1 ▸ hs) (hl s)
  | failed e => exact ⟨e, rfl⟩
  | exhausted => exact absurd h simple_ne_exhausted

/-! ## What is read is a sentence -/

/-- A success of the parser reads a sentence of the level, in which no more than `n` groups are open at once. -/
def Reads (p : Parser Expr) (l : Level) (n : Nat) : Prop :=
  ∀ ⦃c rest : Cursor⦄ ⦃e : Expr⦄, p c = .done e rest →
    ∃ ts, c.words = ts ++ rest.words ∧ Derives l ts e ∧ nesting ts ≤ n

theorem reads_withException {n : Nat} : Reads withException .primary n := by
  intro c rest e h
  obtain ⟨p, hp, rfl⟩ := map_eq_done_iff.1 h
  obtain ⟨c₁, hs, hp⟩ := both_eq_done_iff.1 hp
  obtain ⟨c₂, hw, hx⟩ := both_eq_done_iff.1 hp
  obtain ⟨t, ht, hl⟩ := words_of_simple hs
  obtain ⟨x, hx, hn⟩ := words_of_oneToken hx
  have hn := Identifier.exceptionId_eq_ok_iff.1 hn
  refine ⟨[t, "WITH".toList, x], ?_, .withException hl hn, ?_⟩
  · rw [ht, words_of_literal hw, hx]
    rfl
  · rw [nesting, deepest_unbroken hl.unbroken, deepest_unbroken unbroken_with,
      deepest_unbroken (hn.unbroken Registry.tidy_exceptions)]
    exact Nat.zero_le n

theorem reads_simple {n : Nat} : Reads (simple.map Expr.simple) .primary n := by
  intro c rest e h
  obtain ⟨s, hs, rfl⟩ := map_eq_done_iff.1 h
  obtain ⟨t, ht, hl⟩ := words_of_simple hs
  exact ⟨[t], ht, .simple hl, by rw [nesting_word hl.unbroken]; exact Nat.zero_le n⟩

theorem reads_parenthesized {inner : Parser Expr} {n : Nat} (hi : Reads inner .compound n) :
    Reads (parenthesized inner) .primary (n + 1) := by
  intro c rest e h
  obtain ⟨p, hp, rfl⟩ := map_eq_done_iff.1 h
  obtain ⟨c₁, ho, hp⟩ := both_eq_done_iff.1 hp
  obtain ⟨c₂, he, hc⟩ := both_eq_done_iff.1 hp
  obtain ⟨ts, hts, hd, hn⟩ := hi he
  refine ⟨['('] :: (ts ++ [[')']]), ?_, .group hd, ?_⟩
  · rw [words_of_literal ho, hts, words_of_literal hc, List.cons_append, List.append_assoc]
    rfl
  · rw [hd.balanced.nesting_group]
    exact Nat.succ_le_succ hn

theorem reads_primary {group : Parser Expr} {n : Nat} (hg : Reads group .primary n) :
    Reads (primary group) .primary n := by
  intro c rest e h
  unfold primary oneOf at h
  simp only [tryEach_cons_eq_done_iff] at h
  rcases h with (h | ⟨_, -, h | ⟨_, -, h⟩⟩) | ⟨_, -, h | ⟨_, -, h⟩⟩
  · exact reads_withException h
  · exact reads_simple h
  · cases h
  · exact hg h
  · cases h

/-- One level of operators, for both levels: `hone` and `htwo` are the productions of the level. -/
theorem reads_level {operand : Parser Expr} {op : Text} {join : Expr → Expr → Expr} {l l' : Level} {n : Nat}
    (hop : Token.Unbroken op) (hone : ∀ {ts e}, Derives l ts e → Derives l' ts e)
    (htwo : ∀ {ts us a b}, Derives l ts a → Derives l us b → Derives l' (ts ++ op :: us) (join a b))
    (ho : Reads operand l n) : Reads (level op join operand) l' n := by
  intro c rest e h
  obtain ⟨p, hp, rfl⟩ := map_eq_done_iff.1 h
  obtain ⟨c₁, ha, hm⟩ := both_eq_done_iff.1 hp
  obtain ⟨ts, hts, hd, hn⟩ := ho ha
  rcases maybe_eq_done_iff.1 hm with ⟨q, hq, hb⟩ | ⟨hq, rfl, -⟩
  · obtain ⟨c₂, hw, hb⟩ := both_eq_done_iff.1 hb
    obtain ⟨us, hus, hd', hn'⟩ := ho hb
    simp only [hq]
    refine ⟨ts ++ op :: us, ?_, htwo hd hd', ?_⟩
    · rw [hts, words_of_literal hw, hus, List.append_assoc]
      rfl
    · rw [hd.balanced.nesting_operator hop]
      exact Nat.max_le.2 ⟨hn, hn'⟩
  · simp only [hq]
    exact ⟨ts, hts, hone hd, hn⟩

theorem reads_levels {group : Parser Expr} {n : Nat} (hg : Reads group .primary n) :
    Reads (levels group) .compound n :=
  reads_level unbroken_or .disjunct .or (reads_level unbroken_and .conjunct .and (reads_primary hg))

/-- A parser that may open no group reads none. -/
theorem reads_no_group : Reads (parenthesized exhausted) .primary 0 := by
  intro c rest e h
  obtain ⟨p, hp, -⟩ := map_eq_done_iff.1 h
  obtain ⟨c₁, -, hp⟩ := both_eq_done_iff.1 hp
  obtain ⟨c₂, he, -⟩ := both_eq_done_iff.1 hp
  cases he

/-- **What the parser reads is a sentence, nested no deeper than the parser goes.** -/
theorem reads_compound : ∀ n : Nat, Reads (compound n) .compound n
  | 0 => reads_levels reads_no_group
  | n + 1 => reads_levels (reads_parenthesized (reads_compound n))

/-! ## A sentence is read -/

/-- Where these tokens come next and none of `stops` follows them, the parser reads them as this expression; if it runs
out of nesting instead, then more than `n` groups are open at once in them. -/
def Accepts (p : Parser Expr) (n : Nat) (stops : List Text) (ts : List Text) (e : Expr) : Prop :=
  ∀ ⦃c : Cursor⦄ ⦃more : List Text⦄, c.words = ts ++ more → (∀ w ∈ more.head?, w ∉ stops) →
    (∃ rest, p c = .done e rest ∧ rest.words = more) ∨ (p c = .exhausted ∧ n < nesting ts)

/-- The operators that would carry on an expression of a level. -/
def Level.operators : Level → List Text
  | .primary => ["WITH".toList]
  | .conjunction => ["AND".toList, "WITH".toList]
  | .compound => ["OR".toList, "AND".toList, "WITH".toList]

/-- The parser of groups in which no more than `n` are open at once, themselves included. -/
def group : Nat → Parser Expr
  | 0 => parenthesized exhausted
  | n + 1 => parenthesized (compound n)

/-- The parser of a level. -/
def Level.parser (n : Nat) : Level → Parser Expr
  | .primary => Grammar.primary (group n)
  | .conjunction => level "AND".toList Expr.and (Grammar.primary (group n))
  | .compound => levels (group n)

theorem compound_eq (n : Nat) : compound n = Level.compound.parser n := by
  cases n <;> rfl

theorem withException_eq_failed {s : Simple} {c₁ : Cursor} (hs : simple c = .done s c₁)
    (hw : ∀ w ∈ c₁.words.head?, w ≠ "WITH".toList) : ∃ e, withException c = .failed e := by
  obtain ⟨e, he⟩ := literal_eq_failed hw
  exact ⟨e, map_eq_failed (both_eq_failed_right hs (both_eq_failed_left he))⟩

theorem accepts_simple {group : Parser Expr} {n : Nat} {t : Text} {s : Simple} (hl : Leaf t s) :
    Accepts (primary group) n Level.primary.operators [t] (.simple s) := by
  intro c more hc hstop
  obtain ⟨rest, hs, hr⟩ := simple_of_words hc hl
  obtain ⟨e, he⟩ := withException_eq_failed hs fun w hw hwith => by
    rw [hr] at hw
    exact hstop w hw (List.mem_singleton.2 hwith)
  refine Or.inl ⟨rest, ?_, hr⟩
  unfold primary oneOf
  simp only [tryEach_cons_eq_done_iff]
  exact Or.inl (Or.inr ⟨e, he, Or.inl (map_eq_done_iff.2 ⟨s, hs, rfl⟩)⟩)

theorem accepts_withException {group : Parser Expr} {n : Nat} {t x m : Text} {s : Simple} (hl : Leaf t s)
    (hx : Names exceptions x m) :
    Accepts (primary group) n Level.primary.operators [t, "WITH".toList, x] (.withException s m) := by
  intro c more hc _
  obtain ⟨c₁, hs, hc₁⟩ := simple_of_words hc hl
  obtain ⟨c₂, hw, hc₂⟩ := literal_of_words hc₁
  obtain ⟨rest, he, hr⟩ := oneToken_of_words hc₂ (Identifier.exceptionId_eq_ok_iff.2 hx)
  refine Or.inl ⟨rest, ?_, hr⟩
  unfold primary oneOf
  simp only [tryEach_cons_eq_done_iff]
  refine Or.inl (Or.inl (map_eq_done_iff.2 ⟨(s, "WITH".toList, m), ?_, rfl⟩))
  exact both_eq_done_iff.2 ⟨c₁, hs, both_eq_done_iff.2 ⟨c₂, hw, he⟩⟩

/-- Where no license stands, only the group is left. -/
theorem primary_of_no_license {group : Parser Expr} {f g : ParseError} (hw : withException c = .failed f)
    (hs : simple c = .failed g) : primary group c = group c := by
  have hs' : simple.map Expr.simple c = .failed g := map_eq_failed hs
  unfold primary oneOf
  simp only [tryEach, hw, hs']
  cases group c <;> rfl

/-- An opening parenthesis is no license. -/
theorem primary_of_paren {group : Parser Expr} {ts : List Text} (hc : c.words = ['('] :: ts) :
    primary group c = group c := by
  obtain ⟨e, he⟩ := simple_eq_failed hc fun s hl => hl.unbroken.ne_paren rfl rfl
  exact primary_of_no_license (map_eq_failed (both_eq_failed_left he)) he

theorem level_eq_exhausted {operand : Parser Expr} {op : Text} {join : Expr → Expr → Expr}
    (h : operand c = .exhausted) : level op join operand c = .exhausted :=
  map_eq_exhausted_iff.2 (both_eq_exhausted_iff.2 (Or.inl h))

/-- An operand alone, of either level of operators. -/
theorem Accepts.level_one {operand : Parser Expr} {n : Nat} {stops ts : List Text} {e : Expr} {op : Text}
    {join : Expr → Expr → Expr} (h : Accepts operand n stops ts e) :
    Accepts (level op join operand) n (op :: stops) ts e := by
  intro c more hc hstop
  rcases h hc fun w hw hm => hstop w hw (List.mem_cons_of_mem op hm) with ⟨rest, hd, hr⟩ | ⟨hx, hn⟩
  · obtain ⟨f, hf⟩ := literal_eq_failed (c := rest) fun w hw hwop => by
      rw [hr] at hw
      exact hstop w hw (hwop ▸ List.mem_cons_self)
    refine Or.inl ⟨rest, map_eq_done_iff.2 ⟨(e, none), both_eq_done_iff.2 ⟨rest, hd, ?_⟩, rfl⟩, hr⟩
    exact maybe_eq_done_iff.2 (Or.inr ⟨rfl, rfl, f, both_eq_failed_left hf⟩)
  · exact Or.inr ⟨level_eq_exhausted hx, hn⟩

/-- Two operands with the operator of the level between them. -/
theorem Accepts.level_two {operand : Parser Expr} {n : Nat} {stops ts us : List Text} {a b : Expr} {op : Text}
    {join : Expr → Expr → Expr} (ha : Accepts operand n stops ts a) (hb : Accepts operand n stops us b)
    (hop : Token.Unbroken op) (hstops : op ∉ stops) (hts : Balanced ts) :
    Accepts (level op join operand) n (op :: stops) (ts ++ op :: us) (join a b) := by
  intro c more hc hstop
  have hn : nesting (ts ++ op :: us) = max (nesting ts) (nesting us) := hts.nesting_operator hop us
  rw [List.append_assoc, List.cons_append] at hc
  rcases ha hc fun w hw => by rwa [← Option.some.inj hw] with ⟨c₁, hd, hc₁⟩ | ⟨hx, hlt⟩
  · obtain ⟨c₂, hw, hc₂⟩ := literal_of_words hc₁
    rcases hb hc₂ fun w hw hm => hstop w hw (List.mem_cons_of_mem op hm) with ⟨rest, hd', hr⟩ | ⟨hx, hlt⟩
    · refine Or.inl ⟨rest, map_eq_done_iff.2 ⟨(a, some (op, b)), both_eq_done_iff.2 ⟨c₁, hd, ?_⟩, rfl⟩, hr⟩
      exact maybe_eq_done_iff.2 (Or.inl ⟨_, rfl, both_eq_done_iff.2 ⟨c₂, hw, hd'⟩⟩)
    · refine Or.inr ⟨map_eq_exhausted_iff.2 (both_eq_exhausted_iff.2 (Or.inr ⟨a, c₁, hd, ?_⟩)), by omega⟩
      exact maybe_eq_exhausted_iff.2 (both_eq_exhausted_iff.2 (Or.inr ⟨op, c₂, hw, hx⟩))
  · exact Or.inr ⟨level_eq_exhausted hx, by omega⟩

/-- A group, given that what it holds is read within one group less. -/
theorem accepts_group {n : Nat} {ts : List Text} {e : Expr} (hts : Balanced ts)
    (h : ∀ m, Accepts (compound m) m Level.compound.operators ts e) :
    Accepts (primary (group n)) n Level.primary.operators (['('] :: (ts ++ [[')']])) e := by
  intro c more hc _
  rw [List.cons_append, List.append_assoc, List.singleton_append] at hc
  obtain ⟨c₁, ho, hc₁⟩ := literal_of_words hc
  have hclose : ∀ w ∈ ([[')']] ++ more).head?, w ∉ Level.compound.operators := by
    intro w hw
    rw [← Option.some.inj hw]
    decide
  rw [hts.nesting_group]
  have hg : (∃ rest, group n c = .done e rest ∧ rest.words = more) ∨ (group n c = .exhausted ∧ n < nesting ts + 1) := by
    cases n with
    | zero =>
      refine Or.inr ⟨map_eq_exhausted_iff.2 (both_eq_exhausted_iff.2 (Or.inr ⟨_, c₁, ho, ?_⟩)), Nat.succ_pos _⟩
      exact both_eq_exhausted_iff.2 (Or.inl rfl)
    | succ m =>
      rcases h m hc₁ hclose with ⟨c₂, hd, hc₂⟩ | ⟨hx, hlt⟩
      · obtain ⟨rest, hw, hr⟩ := literal_of_words hc₂
        refine Or.inl ⟨rest, map_eq_done_iff.2 ⟨(['('], e, [')']), both_eq_done_iff.2 ⟨c₁, ho, ?_⟩, rfl⟩, hr⟩
        exact both_eq_done_iff.2 ⟨c₂, hd, hw⟩
      · refine Or.inr ⟨map_eq_exhausted_iff.2 (both_eq_exhausted_iff.2 (Or.inr ⟨_, c₁, ho, ?_⟩)), by omega⟩
        exact both_eq_exhausted_iff.2 (Or.inl hx)
  rw [primary_of_paren hc]
  exact hg

/-- **A sentence is read as its expression**, unless more groups are open at once in it than the parser opens. -/
theorem Derives.accepted {l : Level} {ts : List Text} {e : Expr} (h : Derives l ts e) :
    ∀ n, Accepts (l.parser n) n l.operators ts e := by
  induction h with
  | disjunct _ ih | conjunct _ ih => exact fun n => (ih n).level_one
  | or hl _ ihl ihr => exact fun n => (ihl n).level_two (ihr n) unbroken_or (by decide) hl.balanced
  | and hl _ ihl ihr => exact fun n => (ihl n).level_two (ihr n) unbroken_and (by decide) hl.balanced
  | withException hl hx => exact fun n => accepts_withException hl hx
  | simple hl => exact fun n => accepts_simple hl
  | group hd ih => exact fun n => accepts_group hd.balanced fun m => compound_eq m ▸ ih m

/-! ## Whole texts -/

/-- **A sentence has one expression**: it is the words of some text, and a parser that goes deep enough reads that text
in one way. -/
theorem Derives.unique {ts : List Text} {e f : Expr} (he : Derives .compound ts e) (hf : Derives .compound ts f) :
    e = f := by
  have hc : (Cursor.ofText (Text.join [' '] ts)).words = ts ++ [] := by
    rw [List.append_nil]
    exact Token.words_join he.isWord
  rcases he.accepted (nesting ts) hc (fun w hw => by cases hw) with ⟨_, h₁, -⟩ | ⟨-, hn⟩
  · rcases hf.accepted (nesting ts) hc (fun w hw => by cases hw) with ⟨_, h₂, -⟩ | ⟨-, hn⟩
    · rw [h₁] at h₂
      cases h₂
      rfl
    · exact absurd hn (Nat.lt_irrefl _)
  · exact absurd hn (Nat.lt_irrefl _)

section Texts

variable [Stack]

theorem parse_none (text : Text) : parse text none = parseFree text := rfl

/-- A bound on the nesting only refuses. -/
theorem parseFree_of_parse {text : Text} {maxDepth : Option Int} {e : Expr} (h : parse text maxDepth = .ok e) :
    parseFree text = .ok e := by
  unfold parse at h
  split at h
  · cases h
  · exact h

theorem derives_of_parseFree {text : Text} {e : Expr} (h : parseFree text = .ok e) :
    Derives .compound (Token.words text) e ∧ nesting (Token.words text) ≤ Stack.groups := by
  unfold parseFree at h
  cases ho : compound Stack.groups (.ofText text) with
  | done f rest =>
    rw [ho, finish] at h
    split at h
    · rename_i hp
      cases h
      obtain ⟨ts, hts, hd, hn⟩ := reads_compound Stack.groups ho
      rw [Cursor.peek?_eq_none_iff.1 hp, List.append_nil] at hts
      rw [Token.words, hts]
      exact ⟨hd, hn⟩
    · cases h
  | failed f => rw [ho] at h; cases h
  | exhausted => rw [ho] at h; cases h

theorem Derives.parseFree {text : Text} {e : Expr} (h : Derives .compound (Token.words text) e) :
    Grammar.parseFree text = .ok e ∨
      (Grammar.parseFree text = .error (exhaustion text) ∧ Stack.groups < nesting (Token.words text)) := by
  have hc : (Cursor.ofText text).words = Token.words text ++ [] := (List.append_nil _).symm
  unfold Grammar.parseFree
  rw [compound_eq]
  rcases h.accepted Stack.groups hc (fun w hw => by cases hw) with ⟨rest, hd, hr⟩ | ⟨hx, hn⟩
  · left
    rw [hd, finish, Cursor.peek?_eq_none_iff.2 hr]
  · right
    rw [hx]
    exact ⟨rfl, hn⟩

/-- **The parser accepts exactly the sentences of the grammar**, wherever it does not run out of nesting, and yields the
one expression that a sentence has. -/
theorem parse_eq_ok_iff_derives :
    (∀ (text : Text) (e : Expr), parse text none ≠ .error (exhaustion text) →
      (parse text none = .ok e ↔ Derives .compound (Token.words text) e)) ∧
    ∀ (ts : List Text) (e f : Expr), Derives .compound ts e → Derives .compound ts f → e = f := by
  constructor
  · intro text e hx
    constructor
    · exact fun h => (derives_of_parseFree h).1
    · intro h
      rcases h.parseFree with h | ⟨h, -⟩
      · exact h
      · exact absurd h hx
  · exact fun ts e f he hf => he.unique hf

end Texts

theorem derives_grouped_disjunction :
    letI := Stack.least
    let text := "(gpl-2.0+ OR MIT)AND LicenseRef-x".toList
    let e := Expr.and (.or (.simple (.id "GPL-2.0+".toList false)) (.simple (.id "MIT".toList false)))
      (.simple (.ref "x".toList none))
    parse text none ≠ .error (exhaustion text) ∧ parse text none = .ok e ∧ Derives .compound (Token.words text) e ∧
      ∀ f, Derives .compound (Token.words text) f → f = e := by
  let _ := Stack.least
  intro text e
  have hx : parse text none ≠ .error (exhaustion text) := by decide +kernel
  have hp : parse text none = .ok e := by decide +kernel
  have hd := (parse_eq_ok_iff_derives.1 text e hx).1 hp
  exact ⟨hx, hp, hd, fun f hf => parse_eq_ok_iff_derives.2 _ f e hf hd⟩

end Grammar
end Licensing
