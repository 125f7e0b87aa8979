import Licensing.Proofs.Grammar.Parallel
import Licensing.Proofs.Grammar.Run
import Licensing.Proofs.Parser.Faults
/-!
# Where the parsers of the grammar stop and fail

Every parser that a recipe with proper choices describes keeps to its source and to the tokens ahead, and so does the
recursive parser with any limit (`recipes_in_bounds`).  A choice is proper when it has an alternative and its policy
does not make up a want of input.
-/
namespace Licensing

open Licensing.Parser

namespace Grammar

theorem starvesAtEnd_simple : StarvesAtEnd simple := by
  refine starvesAtEnd_oneOf (by simp [Policy.IsModest]) fun p hp => ?_
  simp only [List.mem_cons, List.not_mem_nil, or_false] at hp
  rcases hp with rfl | rfl | rfl
  · exact starvesAtEnd_oneToken Identifier.pointsInside_licenseId
  · exact starvesAtEnd_oneToken Identifier.pointsInside_licenseIdAndPlus
  · exact starvesAtEnd_oneToken Identifier.pointsInside_licenseRef

theorem starvesAtEnd_withException : StarvesAtEnd withException :=
  have hexception : Forward ((literal "WITH".toList).both (oneToken Identifier.exceptionId)) :=
    forward_both (forward_literal _) (forward_oneToken _)
  starvesAtEnd_map (forward_both forward_simple hexception)
    (starvesAtEnd_both forward_simple starvesAtEnd_simple hexception
      (starvesAtEnd_both (forward_literal _) (starvesAtEnd_literal _)
        (forward_oneToken _) (starvesAtEnd_oneToken Identifier.pointsInside_exceptionId)))

theorem starvesAtEnd_parenthesized {inner : Parser Expr} (hf : Forward inner) (h : StarvesAtEnd inner) :
    StarvesAtEnd (parenthesized inner) :=
  have hclosed : Forward (inner.both (literal ")".toList)) := forward_both hf (forward_literal _)
  starvesAtEnd_map (forward_both (forward_literal _) hclosed)
    (starvesAtEnd_both (forward_literal _) (starvesAtEnd_literal _) hclosed
      (starvesAtEnd_both hf h (forward_literal _) (starvesAtEnd_literal _)))

theorem starvesAtEnd_primary {group : Parser Expr} (h : StarvesAtEnd group) : StarvesAtEnd (primary group) := by
  refine starvesAtEnd_oneOf (by simp [Policy.IsModest]) fun p hp => ?_
  rcases List.mem_pair.1 hp with rfl | rfl
  · refine starvesAtEnd_oneOf (by simp [Policy.IsModest]) fun q hq => ?_
    rcases List.mem_pair.1 hq with rfl | rfl
    · exact starvesAtEnd_withException
    · exact starvesAtEnd_map forward_simple starvesAtEnd_simple
  · exact h

/-- What follows the first operand is optional and never fails. -/
theorem starvesAtEnd_level {operand : Parser Expr} (operator : Text) (join : Expr → Expr → Expr)
    (hf : Forward operand) (h : StarvesAtEnd operand) : StarvesAtEnd (level operator join operand) :=
  have htail : Forward (maybe ((literal operator).both operand)) :=
    forward_maybe (forward_both (forward_literal _) hf)
  starvesAtEnd_map (forward_both hf htail) (starvesAtEnd_both hf h htail (starvesAtEnd_maybe _))

theorem starvesAtEnd_levels {group : Parser Expr} (hf : Forward group) (h : StarvesAtEnd group) :
    StarvesAtEnd (levels group) :=
  have hprimary := forward_primary hf
  starvesAtEnd_level _ _ (forward_level _ _ hprimary) (starvesAtEnd_level _ _ hprimary (starvesAtEnd_primary h))

theorem starvesAtEnd_compound : ∀ limit : Nat, StarvesAtEnd (compound limit)
  | 0 => starvesAtEnd_levels (forward_parenthesized forward_exhausted)
      (starvesAtEnd_parenthesized forward_exhausted starvesAtEnd_exhausted)
  | limit + 1 =>
    have hf : Forward (compound limit) := (seesWords_compound limit).forward
    starvesAtEnd_levels (forward_parenthesized hf) (starvesAtEnd_parenthesized hf (starvesAtEnd_compound limit))

end Grammar

/-! ## Recipes -/

namespace Recipe

mutual

/-- Every choice in the recipe has an alternative, and a policy that does not make up a want of input. -/
def IsProper : Recipe → Prop
  | .seq parts => AreProper parts
  | .oneOf policy alternatives => alternatives ≠ [] ∧ policy.IsModest ∧ AreProper alternatives
  | .maybe part => part.IsProper
  | .mapped _ part => part.IsProper
  | .token _ | .literal _ | .simple | .withException | .compound => True

def AreProper : List Recipe → Prop
  | [] => True
  | r :: rs => r.IsProper ∧ AreProper rs

end

mutual

theorem starvesAtEnd [Grammar.Stack] : ∀ r : Recipe, r.IsProper → StarvesAtEnd r.parser
  | .token check, _ => starvesAtEnd_oneToken check.pointsInside_run
  | .literal word, _ => starvesAtEnd_map (forward_literal word) (starvesAtEnd_literal word)
  | .seq parts, h => by
    have hforward : ∀ p ∈ parsers parts, Forward p := fun p hp => (seesWords_all parts p hp).forward
    exact starvesAtEnd_map (forward_seq hforward) (starvesAtEnd_seq hforward (starvesAtEnd_all parts h))
  | .oneOf _ alternatives, h => starvesAtEnd_oneOf h.2.1 (starvesAtEnd_all alternatives h.2.2)
  | .maybe part, _ => starvesAtEnd_map (forward_maybe part.seesWords.forward) (starvesAtEnd_maybe _)
  | .mapped _ part, h => starvesAtEnd_map part.seesWords.forward (starvesAtEnd part h)
  | .simple, _ => starvesAtEnd_map Grammar.forward_simple Grammar.starvesAtEnd_simple
  | .withException, _ => starvesAtEnd_map Grammar.forward_withException Grammar.starvesAtEnd_withException
  | .compound, _ =>
    starvesAtEnd_map (Grammar.seesWords_compound _).forward (Grammar.starvesAtEnd_compound _)

theorem starvesAtEnd_all [Grammar.Stack] : ∀ rs : List Recipe, AreProper rs → ∀ p ∈ parsers rs, StarvesAtEnd p
  | [], _ => fun _ hp => nomatch hp
  | r :: rs, h => fun p hp => by
    rw [parsers] at hp
    rcases List.mem_cons.1 hp with rfl | hp
    · exact starvesAtEnd r h.1
    · exact starvesAtEnd_all rs h.2 p hp

end

end Recipe

namespace Grammar

/-- **Parsers keep to their cursor and to their source.**  Every parser that the combinators can build from proper
choices stops where it began or behind a token ahead, and fails in a token ahead or at the end of the source: at the
end, if the error is for want of input.  The recursive parser does so with any limit. -/
theorem recipes_in_bounds [Stack] :
    (∀ r : Recipe, r.IsProper → InBounds r.parser) ∧ ∀ limit : Nat, InBounds (compound limit) :=
  ⟨fun r h => r.seesWords.inBounds (r.starvesAtEnd h),
    fun limit => (seesWords_compound limit).inBounds (starvesAtEnd_compound limit)⟩

theorem recipes_in_bounds_broken_reference :
    letI := Stack.least
    let r := Recipe.seq [.maybe (.token .licenseId), .literal "AND".toList,
      .oneOf (.replace .illegalCharacter "".toList) [.oneOf .last [.mapped .first .compound]],
      .maybe (.literal "OR".toList), .oneOf .last [.withException, .token .licenseRef]]
    let c : Cursor := ⟨"xMIT AND (ISC OR 0BSD) LicenseRef-a/b".toList, 1⟩
    r.IsProper ∧ InBounds r.parser ∧ ∃ e, r.parser c = .failed e ∧ e.position = 35 ∧
      ∃ t ∈ c.tokens, (t.start : Int) ≤ e.position ∧ e.position ≤ t.stop := by
  let _ := Stack.least
  intro r c
  have hr : r.IsProper := by simp [r, Recipe.IsProper, Recipe.AreProper, Policy.IsModest]
  have hbounds : InBounds r.parser := recipes_in_bounds.1 r hr
  refine ⟨hr, hbounds, ?_⟩
  have hposition : (match r.parser c with | .failed e => some e.position | _ => none) = some 35 := by decide +kernel
  cases he : r.parser c with
  | done a rest => simp [he] at hposition
  | exhausted => simp [he] at hposition
  | failed e =>
    rw [he] at hposition
    have hplace : e.position = 35 := Option.some.inj hposition
    have hlast : e.position ≠ c.source.length := hplace ▸ by decide +kernel
    obtain ⟨-, -, -, hinside, -⟩ := hbounds.failed c e he (by decide +kernel)
    exact ⟨e, rfl, hplace, hinside.resolve_right hlast⟩

end Grammar
end Licensing
