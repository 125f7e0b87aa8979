import Licensing.Grammar
import Licensing.Parser.Recipe
import Licensing.Proofs.Parser.Algebra
/-!
# The grammar with every license read once

An operand is first tried as a license with an exception, and then as a license alone, so a license without an exception
is read twice.  By the algebra of parsers a grammar that reads it once gives the same answers
(`compound_eq_compoundOnce`).
-/
namespace Licensing
namespace Grammar

open Licensing.Parser

/-- A license, and perhaps the exception that it comes with. -/
def licensed : Parser Expr :=
  (simple.both (maybe ((literal "WITH".toList).both (oneToken Identifier.exceptionId)))).map fun p =>
    match p.2 with
    | none => .simple p.1
    | some q => .withException p.1 q.2

theorem oneOf_withException_simple : oneOf .last [withException, simple.map Expr.simple] = licensed := by
  unfold withException licensed
  rw [oneOf_left_factored]
  congr 1
  funext p
  cases p.2 <;> rfl

/-- The levels over an operand that is such a license or a group. -/
def levelsOnce (group : Parser Expr) : Parser Expr :=
  level "OR".toList Expr.or (level "AND".toList Expr.and (oneOf .last [licensed, group]))

/-- The grammar in which no license is read twice. -/
def compoundOnce : Nat → Parser Expr
  | 0 => levelsOnce (parenthesized exhausted)
  | n + 1 => levelsOnce (parenthesized (compoundOnce n))

theorem levels_eq_levelsOnce (group : Parser Expr) : levels group = levelsOnce group := by
  unfold levels levelsOnce primary
  rw [oneOf_withException_simple]

theorem compound_eq_compoundOnce : ∀ limit : Nat, compound limit = compoundOnce limit
  | 0 => levels_eq_levelsOnce _
  | limit + 1 => by
    rw [compound, compound_eq_compoundOnce limit]
    exact levels_eq_levelsOnce _

/-- **Splicing and left factoring change no answer.**  Both sides of each equation are parsers, so from every cursor
they give the same value behind the same tokens, or the same error.

A choice with an alternative, inside a choice, may be spliced where both report the last error.  A sequence inside a
sequence may be spliced, and then so is its value.  Two parts, or else the first one alone, are the first part and
perhaps the second: each side makes its value from that of one run, in which a second part that is not there differs
from one that yields `absent`.  Hence a license, with its exception or else alone, may be read once, in the whole
grammar. -/
theorem splicing_and_factoring {α : Type} (tuple : List α → α) (parts : α → List α) (absent : α) :
    (∀ (ps : List (Parser α)) (q : Parser α) (qs rs : List (Parser α)),
      oneOf .last (ps ++ oneOf .last (q :: qs) :: rs) = oneOf .last (ps ++ q :: qs ++ rs)) ∧
    ((∀ vs, parts (tuple vs) = vs) → ∀ ps qs rs : List (Parser α),
      (seq (ps ++ (seq qs).map tuple :: rs)).map (spliceAt parts ps.length) = seq (ps ++ qs ++ rs)) ∧
    (∀ p q : Parser α,
      oneOf .last [(seq [p, q]).map tuple, p] =
        (p.both (maybe q)).map (fun r => r.2.elim r.1 fun b => tuple [r.1, b]) ∧
      seq [p, (maybe q).map (·.getD absent)] = (p.both (maybe q)).map fun r => [r.1, r.2.getD absent]) ∧
    oneOf .last [withException, simple.map Expr.simple] = licensed ∧
    ∀ limit, compound limit = compoundOnce limit := by
  have hseq (h : ∀ vs, parts (tuple vs) = vs) (ps qs rs : List (Parser α)) :
      (seq (ps ++ (seq qs).map tuple :: rs)).map (spliceAt parts ps.length) = seq (ps ++ qs ++ rs) :=
    seq_splice h qs rs ps
  have hfactor (p q : Parser α) := And.intro (oneOf_seq_pair tuple p q) (seq_pair_maybe absent p q)
  exact ⟨oneOf_splice, hseq, hfactor, oneOf_withException_simple, compound_eq_compoundOnce⟩

theorem splicing_and_factoring_of_exception :
    letI := Stack.least
    let parts : Node → List Node := fun v => match v with | .list vs => vs | v => [v]
    let license := Recipe.simple.parser
    let operator := (Recipe.literal "WITH".toList).parser
    let exception := (Recipe.token .exceptionId).parser
    let c := Cursor.ofText "MIT WITH LLVM-exception OR ISC".toList
    let shown : Outcome (List Node) → Option (List Text × Nat) := fun o =>
      match o with | .done vs rest => some (vs.map Node.render, rest.offset) | _ => none
    (∀ vs, parts (.list vs) = vs) ∧
    (seq [license, (seq [operator, exception]).map .list]).map (spliceAt parts 1) =
      seq [license, operator, exception] ∧
    shown (seq [license, (seq [operator, exception]).map .list] c) =
      some (["MIT".toList, "(WITH, LLVM-exception)".toList], 23) ∧
    shown (seq [license, operator, exception] c) =
      some (["MIT".toList, "WITH".toList, "LLVM-exception".toList], 23) := by
  let _ := Stack.least
  intro parts license operator exception c shown
  have hparts : ∀ vs, parts (.list vs) = vs := fun _ => rfl
  exact ⟨hparts, (splicing_and_factoring Node.list parts .nothing).2.1 hparts [license] [operator, exception] [],
    by decide +kernel, by decide +kernel⟩

end Grammar
end Licensing
