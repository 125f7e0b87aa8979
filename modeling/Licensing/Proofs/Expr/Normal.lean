import Licensing.Proofs.Expr.Rendering
import Licensing.Proofs.Grammar.Cap
/-!
# Canonical texts

The canonical text of an expression has no more parentheses than any other text of it, and nests them no deeper
(`Grammar.Derives.render_le`).  So a text that was read under a bound on the nesting may be replaced by the canonical
text of what was read: under the same bound that one is read as the same expression (`parse_render_bounded`).
-/
namespace Licensing
namespace Grammar

theorem parenMeasure_count : ParenMeasure (List.count ['(']) (· + ·) where
  mono h h' := Nat.add_le_add h h'
  unbroken h := List.count_eq_zero.2 fun hm => (h _ hm).ne_paren rfl rfl
  operator _ hop := by rw [List.count_append, List.count_cons_of_ne (hop.ne_paren rfl)]
  group _ := by
    rw [List.count_cons_self, List.count_append, List.count_singleton, if_neg (by decide), Nat.add_zero]

/-- **The canonical text is parenthesis-minimal** among the sentences of its expression, by every measure. -/
theorem Derives.render_le {μ : List Text → Nat} {join : Nat → Nat → Nat} (hμ : ParenMeasure μ join) {ts : List Text}
    {e : Expr} (h : Derives .compound ts e) : μ (Token.words e.render) ≤ μ ts := by
  rw [Expr.words_render h.wellFormed.registered]
  exact h.measure_words_le hμ

/-- **Rendering what was read is stable under a bound on the nesting**: the canonical text has no more opening
parentheses than the text that was read and is nested no deeper, and under the same bound it is read as the same
expression, whose text it is. -/
theorem parse_render_bounded [Stack] {text : Text} {maxDepth : Option Int} {e : Expr}
    (h : parse text maxDepth = .ok e) :
    (Token.words e.render).count ['('] ≤ (Token.words text).count ['('] ∧
      nesting (Token.words e.render) ≤ nesting (Token.words text) ∧
      parse e.render maxDepth = .ok e ∧ (parse e.render maxDepth).map Expr.render = .ok e.render := by
  obtain ⟨hp, hn⟩ := parse_eq_ok_iff.1 h
  have hd := (derives_of_parseFree hp).1
  have hnesting := hd.render_le parenMeasure_nesting
  have hback : parse e.render maxDepth = .ok e :=
    parse_eq_ok_iff.2 ⟨parseFree_render_of_parseFree hp, fun n hmem => Nat.le_trans hnesting (hn n hmem)⟩
  refine ⟨hd.render_le parenMeasure_count, hnesting, hback, ?_⟩
  rw [hback]
  rfl

theorem parse_render_bounded_by_two :
    letI := Stack.least
    let text := "((mit)) AND ((gpl-2.0+ OR ISC))".toList
    let e := Expr.and (.simple (.id "MIT".toList false))
      (.or (.simple (.id "GPL-2.0+".toList false)) (.simple (.id "ISC".toList false)))
    parse text (some 2) = .ok e ∧
      (Token.words e.render).count ['('] ≤ (Token.words text).count ['('] ∧
      nesting (Token.words e.render) ≤ nesting (Token.words text) ∧ parse e.render (some 2) = .ok e := by
  let _ := Stack.least
  intro text e
  have hp : parse text (some 2) = .ok e := by decide +kernel
  obtain ⟨hcount, hnesting, hback, -⟩ := parse_render_bounded hp
  exact ⟨hp, hcount, hnesting, hback⟩

end Grammar
end Licensing
