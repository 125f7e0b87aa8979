import Licensing.Proofs.Identifier.Forms
/-!
# The language of license expressions

The grammar as a relation: which lists of token texts make up an expression of a level, and which expression that is.
Nothing here refers to a parser.  Every token of a sentence is a parenthesis or a text without breaks
(`Derives.isWord`), so a sentence is the list of words of some text.
-/
namespace Licensing
namespace Grammar

open Registry (Names licenses exceptions)
open Token (IsWord Unbroken)

/-- The license that a single token stands for: the first of the three forms that the token has. -/
inductive Leaf : Text → Simple → Prop
  | id {t n : Text} : Names licenses t n → Leaf t (.id n false)
  | idAndPlus {u n : Text} : (∀ m, ¬ Names licenses (u ++ ['+']) m) → Names licenses u n →
      Leaf (u ++ ['+']) (.id n true)
  | ref {s : Simple} : (∀ m, ¬ Names licenses s.render m) →
      (∀ u m, s.render = u ++ ['+'] → ¬ Names licenses u m) → Identifier.IsReference s → Leaf s.render s

/-- The levels of the grammar, the loosest first. -/
inductive Level
  | compound
  | conjunction
  | primary
  deriving DecidableEq, Repr

/-- The token texts make up an expression of a level. -/
inductive Derives : Level → List Text → Expr → Prop
  | disjunct {ts : List Text} {e : Expr} : Derives .conjunction ts e → Derives .compound ts e
  | or {ts us : List Text} {l r : Expr} : Derives .conjunction ts l → Derives .conjunction us r →
      Derives .compound (ts ++ "OR".toList :: us) (.or l r)
  | conjunct {ts : List Text} {e : Expr} : Derives .primary ts e → Derives .conjunction ts e
  | and {ts us : List Text} {l r : Expr} : Derives .primary ts l → Derives .primary us r →
      Derives .conjunction (ts ++ "AND".toList :: us) (.and l r)
  | withException {t x n : Text} {s : Simple} : Leaf t s → Names exceptions x n →
      Derives .primary [t, "WITH".toList, x] (.withException s n)
  | simple {t : Text} {s : Simple} : Leaf t s → Derives .primary [t] (.simple s)
  | group {ts : List Text} {e : Expr} : Derives .compound ts e → Derives .primary (['('] :: (ts ++ [[')']])) e

theorem unbroken_or : Unbroken "OR".toList := by decide

theorem unbroken_and : Unbroken "AND".toList := by decide

theorem unbroken_with : Unbroken "WITH".toList := by decide

theorem Leaf.unbroken {t : Text} {s : Simple} (h : Leaf t s) : Unbroken t := by
  cases h with
  | id hn => exact hn.unbroken Registry.tidy_licenses
  | idAndPlus _ hn => exact (hn.unbroken Registry.tidy_licenses).append (by decide)
  | ref _ _ hs =>
    cases s with
    | id n later => exact hs.elim
    | ref n d => exact Identifier.unbroken_refText hs.1 hs.2

theorem Leaf.isWord {t : Text} {s : Simple} (h : Leaf t s) : IsWord t := by
  refine Or.inr (Or.inr ⟨?_, h.unbroken⟩)
  cases h with
  | id hn => exact hn.ne_nil Registry.tidy_licenses
  | idAndPlus _ hn => simp
  | ref _ _ hs =>
    cases s with
    | id n later => exact hs.elim
    | ref n d => exact Identifier.refText_ne_nil n d

/-- **A sentence consists of words.** -/
theorem Derives.isWord {l : Level} {ts : List Text} {e : Expr} (h : Derives l ts e) : ∀ t ∈ ts, IsWord t := by
  have operator {w : Text} (hw : w ≠ []) (hu : Unbroken w) : IsWord w := Or.inr (Or.inr ⟨hw, hu⟩)
  induction h with
  | disjunct _ ih | conjunct _ ih => exact ih
  | or _ _ ihl ihr =>
    intro t ht
    rcases List.mem_append.1 ht with ht | ht
    · exact ihl t ht
    · rcases List.mem_cons.1 ht with rfl | ht
      · exact operator (by decide) unbroken_or
      · exact ihr t ht
  | and _ _ ihl ihr =>
    intro t ht
    rcases List.mem_append.1 ht with ht | ht
    · exact ihl t ht
    · rcases List.mem_cons.1 ht with rfl | ht
      · exact operator (by decide) unbroken_and
      · exact ihr t ht
  | withException hs hx =>
    intro t ht
    simp only [List.mem_cons, List.not_mem_nil, or_false] at ht
    rcases ht with rfl | rfl | rfl
    · exact hs.isWord
    · exact operator (by decide) unbroken_with
    · exact operator (hx.ne_nil Registry.tidy_exceptions) (hx.unbroken Registry.tidy_exceptions)
  | simple hs =>
    intro t ht
    obtain rfl := List.mem_singleton.1 ht
    exact hs.isWord
  | group _ ih =>
    intro t ht
    rcases List.mem_cons.1 ht with rfl | ht
    · exact Or.inl rfl
    · rcases List.mem_append.1 ht with ht | ht
      · exact ih t ht
      · exact Or.inr (Or.inl (List.mem_singleton.1 ht))

end Grammar
end Licensing
