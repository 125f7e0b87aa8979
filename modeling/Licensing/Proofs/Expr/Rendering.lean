import Licensing.Proofs.Expr.WellFormed
import Licensing.Proofs.Grammar.Acceptance
/-!
# Rendering and reading back

The words of a rendered expression follow its tree (`Expr.words_render`), with parentheses exactly where the grammar
needs a group, so they make up the settled expression at every level (`Expr.derives_level`).  What is read is
well-formed, and a well-formed expression is settled, so rendering and reading are inverse on what was read
(`parse_render`).
-/
namespace Licensing

open Grammar (Level Derives nesting Balanced)
open Token (Unbroken)

namespace Expr

/-- The tokens of an operand, which stands in parentheses if `b` says so. -/
def wrapWords (b : Bool) (ts : List Text) : List Text := if b then ['('] :: (ts ++ [[')']]) else ts

/-- The tokens of the text of an expression. -/
def words : Expr → List Text
  | .simple s => [s.render]
  | .withException s x => [s.render, "WITH".toList, x]
  | .and l r => wrapWords l.isCompound l.words ++ "AND".toList :: wrapWords r.isCompound r.words
  | .or l r => wrapWords l.isOr l.words ++ "OR".toList :: wrapWords r.isOr r.words

theorem words_wrapIf (b : Bool) (t : Text) : Token.words (wrapIf b t) = wrapWords b (Token.words t) := by
  cases b with
  | false => rfl
  | true =>
    show Token.words ('(' :: (t ++ ')' :: [])) = _
    rw [Token.words_paren rfl, Token.words_append_break rfl]
    rfl

theorem words_operator {op : Text} (hne : op ≠ []) (hop : Unbroken op) (s t : Text) :
    Token.words (s ++ (' ' :: op ++ [' ']) ++ t) = Token.words s ++ op :: Token.words t := by
  have hs : s ++ (' ' :: op ++ [' ']) ++ t = s ++ ' ' :: (op ++ ' ' :: t) := by simp
  rw [hs, Token.words_append_space, Token.words_append_space, Token.words_of_unbroken hne hop]
  rfl

end Expr

theorem Simple.words_render {s : Simple} (h : s.Registered) : Token.words s.render = [s.render] :=
  Token.words_of_isWord (Simple.leaf_render h).isWord

/-- **The text of a registered expression consists of the tokens of its tree.** -/
theorem Expr.words_render : ∀ {e : Expr}, e.Registered → Token.words e.render = e.words
  | .simple _, h => Simple.words_render h
  | .withException s x, ⟨hs, hx⟩ => by
    have hx := Token.words_of_unbroken (Registry.tidy_exceptions.unbroken x hx).1
      (Registry.tidy_exceptions.unbroken x hx).2
    show Token.words (s.render ++ (' ' :: "WITH".toList ++ [' ']) ++ x) = _
    rw [words_operator (by decide) Grammar.unbroken_with, Simple.words_render hs, hx]
    rfl
  | .and l r, ⟨hl, hr⟩ => by
    show Token.words (wrapIf l.isCompound l.render ++ (' ' :: "AND".toList ++ [' ']) ++
      wrapIf r.isCompound r.render) = _
    rw [words_operator (by decide) Grammar.unbroken_and, words_wrapIf, words_wrapIf, words_render hl, words_render hr]
    rfl
  | .or l r, ⟨hl, hr⟩ => by
    show Token.words (wrapIf l.isOr l.render ++ (' ' :: "OR".toList ++ [' ']) ++ wrapIf r.isOr r.render) = _
    rw [words_operator (by decide) Grammar.unbroken_or, words_wrapIf, words_wrapIf, words_render hl, words_render hr]
    rfl

/-! ## The words of a rendered expression are a sentence -/

namespace Grammar

/-- Whether an expression stands in parentheses as an operand of a level. -/
def Level.grouped : Level → Expr → Bool
  | .compound, _ => false
  | .conjunction, e => e.isOr
  | .primary, e => e.isCompound

end Grammar

open Licensing.Expr (wrapWords)

namespace Expr

/-- The tightest level that an expression has without parentheses around it. -/
def level : Expr → Level
  | .simple _ | .withException _ _ => .primary
  | .and _ _ => .conjunction
  | .or _ _ => .compound

end Expr

/-- Parentheses where the renderer puts them bring an expression to any level. -/
theorem Grammar.Derives.grouped {e f : Expr} {ts : List Text} (h : Derives e.level ts f) :
    ∀ l : Level, Derives l (wrapWords (l.grouped e) ts) f := by
  cases e with
  | simple s | withException s x =>
    intro l
    cases l with
    | compound => exact .disjunct (.conjunct h)
    | conjunction => exact .conjunct h
    | primary => exact h
  | and a b =>
    intro l
    cases l with
    | compound => exact .disjunct h
    | conjunction => exact h
    | primary => exact .group (.disjunct h)
  | or a b =>
    intro l
    cases l with
    | compound => exact h
    | conjunction => exact .conjunct (.group h)
    | primary => exact .group h

theorem Expr.derives_level : ∀ {e : Expr}, e.Registered → Derives e.level e.words e.settled
  | .simple _, h => .simple (Simple.leaf_render h)
  | .withException _ _, ⟨hs, hx⟩ => .withException (Simple.leaf_render hs) (Registry.Names.self hx)
  | .and _ _, ⟨hl, hr⟩ => .and ((derives_level hl).grouped .primary) ((derives_level hr).grouped .primary)
  | .or _ _, ⟨hl, hr⟩ => .or ((derives_level hl).grouped .conjunction) ((derives_level hr).grouped .conjunction)

/-- **The text of a registered expression is a sentence, whose expression is the settled one.** -/
theorem Expr.derives_render {e : Expr} (h : e.Registered) :
    Derives .compound (Token.words e.render) e.settled := by
  rw [Expr.words_render h]
  exact (Expr.derives_level h).grouped .compound

/-! ## What is read is well-formed, and rendered without needless parentheses -/

/-- **The expression of a sentence is well-formed.** -/
theorem Grammar.Derives.wellFormed {l : Level} {ts : List Text} {e : Expr} (h : Derives l ts e) : e.WellFormed := by
  induction h with
  | disjunct _ ih | conjunct _ ih | group _ ih => exact ih
  | or _ _ ihl ihr | and _ _ ihl ihr => exact ⟨ihl, ihr⟩
  | withException hs hx => exact ⟨hs.wellFormed, hx.1⟩
  | simple hs => exact hs.wellFormed

theorem Expr.balanced_words {e : Expr} (h : e.Registered) : Balanced e.words := (derives_level h).balanced

/-- A measure of the parentheses in a list of tokens: a group adds one, and `join` puts what stands on either side of
an operator together. -/
structure Grammar.ParenMeasure (μ : List Text → Nat) (join : Nat → Nat → Nat) : Prop where
  mono : ∀ {a a' b b' : Nat}, a ≤ a' → b ≤ b' → join a b ≤ join a' b'
  unbroken : ∀ {ts : List Text}, (∀ t ∈ ts, Unbroken t) → μ ts = 0
  operator : ∀ {ts us : List Text} {op : Text}, Balanced ts → Unbroken op → μ (ts ++ op :: us) = join (μ ts) (μ us)
  group : ∀ {ts : List Text}, Balanced ts → μ (['('] :: (ts ++ [[')']])) = μ ts + 1

theorem Grammar.parenMeasure_nesting : ParenMeasure nesting max where
  mono h h' := by omega
  unbroken h := deepest_of_unbroken h 0
  operator h hop := h.nesting_operator hop _
  group h := h.nesting_group

section ParenMeasure

open Grammar (ParenMeasure)

variable {μ : List Text → Nat} {join : Nat → Nat → Nat} (hμ : ParenMeasure μ join)
include hμ

theorem Grammar.ParenMeasure.wrapWords {ts : List Text} (h : Balanced ts) (b : Bool) :
    μ (wrapWords b ts) = μ ts + b.toNat := by
  cases b with
  | false => rfl
  | true => exact hμ.group h

/-- Two operands as they are rendered measure no more than two texts that measure no less than each. -/
theorem Grammar.ParenMeasure.operands_le {a b : Expr} {op : Text} {l : Level} {m n : Nat} (hop : Unbroken op)
    (ha : a.Registered) (hb : b.Registered) (hna : μ a.words + (l.grouped a).toNat ≤ m)
    (hnb : μ b.words + (l.grouped b).toNat ≤ n) :
    μ (Expr.wrapWords (l.grouped a) a.words ++ op :: Expr.wrapWords (l.grouped b) b.words) ≤ join m n := by
  rw [hμ.operator ((Expr.derives_level ha).grouped l).balanced hop, hμ.wrapWords (Expr.balanced_words ha),
    hμ.wrapWords (Expr.balanced_words hb)]
  exact hμ.mono hna hnb

/-- **A sentence measures no less than the text that its expression is rendered as**: the renderer writes no
parentheses that the grammar does not need. -/
theorem Grammar.Derives.measure_words_le {l : Level} {ts : List Text} {e : Expr} (h : Derives l ts e) :
    μ e.words + (l.grouped e).toNat ≤ μ ts := by
  induction h with
  | disjunct _ ih => exact Nat.le_trans (Nat.add_le_add_left (Nat.zero_le _) _) ih
  | @conjunct _ e _ ih =>
    have : e.isOr.toNat ≤ e.isCompound.toNat := by cases e <;> simp [Expr.isOr, Expr.isCompound]
    exact Nat.le_trans (Nat.add_le_add_left this _) ih
  | or hl hr ihl ihr =>
    rw [hμ.operator hl.balanced unbroken_or]
    exact hμ.operands_le (l := .conjunction) unbroken_or hl.wellFormed.registered hr.wellFormed.registered ihl ihr
  | and hl hr ihl ihr =>
    rw [hμ.operator hl.balanced unbroken_and]
    exact hμ.operands_le (l := .primary) unbroken_and hl.wellFormed.registered hr.wellFormed.registered ihl ihr
  | @withException t x n s hs hx =>
    have hn : Unbroken n := (Registry.Names.self hx.1).unbroken Registry.tidy_exceptions
    have hr := (Simple.leaf_render hs.wellFormed.1).unbroken
    have hwords : μ (Expr.withException s n).words = 0 := by
      refine hμ.unbroken fun u hu => ?_
      simp only [Expr.words, List.mem_cons, List.not_mem_nil, or_false] at hu
      rcases hu with rfl | rfl | rfl
      · exact hr
      · exact unbroken_with
      · exact hn
    rw [hwords]
    exact Nat.zero_le _
  | @simple t s hs =>
    have hwords : μ (Expr.simple s).words = 0 := by
      refine hμ.unbroken fun u hu => ?_
      obtain rfl := List.mem_singleton.1 hu
      exact (Simple.leaf_render hs.wellFormed.1).unbroken
    rw [hwords]
    exact Nat.zero_le _
  | group hd ih =>
    rw [hμ.group hd.balanced]
    exact Nat.add_le_add ih (Bool.toNat_le _)

end ParenMeasure

/-! ## Reading back -/

namespace Grammar

/-- **The text of a registered expression is read as the settled expression**, if it is not nested too deeply. -/
theorem parseFree_render [Stack] {e : Expr} (h : e.Registered) (hn : nesting (Token.words e.render) ≤ Stack.groups) :
    parseFree e.render = .ok e.settled := by
  rcases (Expr.derives_render h).parseFree with hp | ⟨-, hlt⟩
  · exact hp
  · exact absurd hn (Nat.not_le.2 hlt)

theorem parseFree_render_of_parseFree [Stack] {text : Text} {e : Expr} (h : parseFree text = .ok e) :
    parseFree e.render = .ok e := by
  obtain ⟨hd, hn⟩ := derives_of_parseFree h
  obtain ⟨hr, hs⟩ := Expr.wellFormed_iff.1 hd.wellFormed
  have hle : nesting (Token.words e.render) ≤ Stack.groups := by
    rw [Expr.words_render hr]
    exact Nat.le_trans (hd.measure_words_le parenMeasure_nesting) hn
  rw [parseFree_render hr hle, hs]

/-- **Rendering and reading are inverse**: what is read is well-formed, a well-formed expression is read back from its
text, and so a text that was rendered from what was read is rendered again when it is read. -/
theorem parse_render [Stack] :
    (∀ (text : Text) (maxDepth : Option Int) (e : Expr), parse text maxDepth = .ok e → e.WellFormed) ∧
    (∀ e : Expr, e.WellFormed → nesting (Token.words e.render) ≤ 64 → parse e.render none = .ok e) ∧
    ∀ (text : Text) (maxDepth : Option Int) (e : Expr), parse text maxDepth = .ok e →
      parse e.render none = .ok e ∧ (parse e.render none).map Expr.render = .ok e.render := by
  refine ⟨fun text maxDepth e h => ?_, fun e h hn => ?_, fun text maxDepth e h => ?_⟩
  · exact (derives_of_parseFree (parseFree_of_parse h)).1.wellFormed
  · obtain ⟨hr, hs⟩ := Expr.wellFormed_iff.1 h
    rw [parse_none, parseFree_render hr (Nat.le_trans hn Stack.enough), hs]
  · rw [parse_none, parseFree_render_of_parseFree (parseFree_of_parse h)]
    exact ⟨rfl, rfl⟩

theorem parse_render_needless_parentheses :
    letI := Stack.least
    let text := "((mit)) AND (gpl-2.0+ OR DocumentRef-a:LicenseRef-b)".toList
    let e := Expr.and (.simple (.id "MIT".toList false))
      (.or (.simple (.id "GPL-2.0+".toList false)) (.simple (.ref "b".toList (some "a".toList))))
    parse text none = .ok e ∧ nesting (Token.words e.render) ≤ 64 ∧ e.WellFormed ∧ parse e.render none = .ok e ∧
      (parse e.render none).map Expr.render = .ok e.render := by
  let _ := Stack.least
  intro text e
  have hp : parse text none = .ok e := by decide +kernel
  have hn : nesting (Token.words e.render) ≤ 64 := by decide +kernel
  have hw := parse_render.1 text none e hp
  exact ⟨hp, hn, hw, parse_render.2.1 e hw hn, (parse_render.2.2 text none e hp).2⟩

end Grammar
end Licensing
