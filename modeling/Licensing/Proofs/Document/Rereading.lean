import Licensing.Proofs.Document.Decoding
import Licensing.Proofs.Expr.Rendering
/-!
# Reading the text of a decoded expression

An expression that is decoded from a document is registered, but it need not be well-formed: a document can mark
`GPL-2.0` as or-later, while the text `GPL-2.0+` stands for the entry of that name.  The text of a decoded expression is
read as the settled expression, and two decoded expressions have one text exactly when they settle to one expression
(`Compound.parse_render_toExpr`).
-/
namespace Licensing

namespace Expr

/-- No or-later license of the expression is of a family that has an entry for it. -/
def Plain (e : Expr) : Prop := ∀ p ∈ e.leaves, ∀ n ∈ Registry.plusFamilies, p.1 ≠ .id n true

theorem wellFormed_iff_plain {e : Expr} (h : e.Registered) : e.WellFormed ↔ e.Plain := by
  rw [wellFormed_iff_unclaimed]
  have hleaf : ∀ l ∈ e.leaves, (l.1.Unclaimed ↔ ∀ n ∈ Registry.plusFamilies, l.1 ≠ .id n true) := fun l hl =>
    Simple.unclaimed_iff (each_iff.1 h l hl).1
  constructor
  · exact fun hw l hl => (hleaf l hl).1 (hw.2 l hl)
  · exact fun hp => ⟨h, fun l hl => (hleaf l hl).2 (hp l hl)⟩

theorem isOr_settled (e : Expr) : e.settled.isOr = e.isOr := by cases e <;> rfl

theorem isCompound_settled (e : Expr) : e.settled.isCompound = e.isCompound := by cases e <;> rfl

/-- Settling changes no text. -/
theorem render_settled : ∀ {e : Expr}, e.Registered → e.settled.render = e.render
  | .simple _, h => Simple.render_settled h
  | .withException _ _, ⟨hs, _⟩ => by rw [settled, render, Simple.render_settled hs, render]
  | .and _ _, ⟨hl, hr⟩ => by
    rw [settled, render, isCompound_settled, isCompound_settled, render_settled hl, render_settled hr, render]
  | .or _ _, ⟨hl, hr⟩ => by
    rw [settled, render, isOr_settled, isOr_settled, render_settled hl, render_settled hr, render]

/-- **Two registered expressions have one text exactly when they settle to one expression.** -/
theorem render_eq_iff {e f : Expr} (he : e.Registered) (hf : f.Registered) :
    e.render = f.render ↔ e.settled = f.settled := by
  constructor
  · intro h
    have hd := derives_render hf
    rw [← h] at hd
    exact (derives_render he).unique hd
  · intro h
    rw [← render_settled he, h, render_settled hf]

end Expr

namespace Document

open Grammar (parse nesting)

/-- **The text of a decoded expression is read as the settled expression**, which is the decoded one exactly when no
or-later license is written like an entry.  Two decoded expressions have one text exactly when they settle to one. -/
theorem Compound.parse_render_toExpr [Grammar.Stack] {c : Compound} {e : Expr} (h : c.toExpr = .ok e) :
    (nesting (Token.words e.render) ≤ 64 →
      parse e.render none = .ok e.settled ∧ (parse e.render none = .ok e ↔ e.Plain)) ∧
    ∀ (d : Compound) (f : Expr), d.toExpr = .ok f → (e.render = f.render ↔ e.settled = f.settled) := by
  have hr := registered_of_toExpr h
  constructor
  · intro hn
    have hp : parse e.render none = .ok e.settled := Grammar.parseFree_render hr (Nat.le_trans hn Grammar.Stack.enough)
    refine ⟨hp, ?_⟩
    rw [hp, Except.ok.injEq, ← Expr.wellFormed_iff_plain hr, Expr.wellFormed_iff]
    exact (and_iff_right hr).symm
  · exact fun d f hf => Expr.render_eq_iff hr (registered_of_toExpr hf)

theorem Compound.parse_render_mit_or_later :
    letI := Grammar.Stack.least
    let c := Compound.conjunction .or (.simple (.license ⟨"mit".toList, some true, []⟩))
      (.simple (.ref ⟨"x".toList, none, []⟩))
    let e := Expr.or (.simple (.id "MIT".toList true)) (.simple (.ref "x".toList none))
    c.toExpr = .ok e ∧ nesting (Token.words e.render) ≤ 64 ∧ parse e.render none = .ok e ∧
      ∀ (d : Compound) (f : Expr), d.toExpr = .ok f → e.render = f.render → f.settled = e := by
  let _ := Grammar.Stack.least
  intro c e
  have hc : c.toExpr = .ok e := by decide +kernel
  have hn : nesting (Token.words e.render) ≤ 64 := by decide +kernel
  have hp : e.Plain := by unfold Expr.Plain; decide +kernel
  have hs : e.settled = e := by decide +kernel
  refine ⟨hc, hn, ((parse_render_toExpr hc).1 hn).2.2 hp, fun d f hd h => ?_⟩
  rw [← ((parse_render_toExpr hc).2 d f hd).1 h, hs]

/-- The or-later license of a family that has an entry for it is read back as that entry. -/
theorem Compound.parse_render_gpl_or_later :
    letI := Grammar.Stack.least
    let c := Compound.simple (.license ⟨"GPL-2.0".toList, some true, []⟩)
    let d := Compound.simple (.license ⟨"GPL-2.0+".toList, none, []⟩)
    let e := Expr.simple (.id "GPL-2.0".toList true)
    let f := Expr.simple (.id "GPL-2.0+".toList false)
    c.toExpr = .ok e ∧ d.toExpr = .ok f ∧ nesting (Token.words e.render) ≤ 64 ∧ e.render = f.render ∧ e ≠ f ∧
      parse e.render none = .ok f := by
  let _ := Grammar.Stack.least
  decide +kernel

end Document
end Licensing
