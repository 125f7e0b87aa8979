import Licensing.Parser.Recipe
import Licensing.Proofs.Parser.Parallel
/-!
# Spacing does not matter

Every parser of the grammar, and every parser that a recipe describes, sees words only (`seesWords_compound`,
`Recipe.seesWords`): the grammar by induction on the groups that may still be opened, recipes by recursion.  So
two texts with the same words are read alike, whatever their spacing (`words_determine_answers`).
-/
namespace Licensing

open Licensing.Parser
open Outcome (Parallel)
open Cursor (SameFault SamePlace)

namespace Grammar

/-! ## The parsers of the grammar -/

theorem seesWords_simple : SeesWords simple := by
  refine seesWords_oneOf _ fun p hp => ?_
  simp only [List.mem_cons, List.not_mem_nil, or_false] at hp
  rcases hp with rfl | rfl | rfl
  · exact seesWords_oneToken Identifier.pointsInside_licenseId
  · exact seesWords_oneToken Identifier.pointsInside_licenseIdAndPlus
  · exact seesWords_oneToken Identifier.pointsInside_licenseRef

theorem seesWords_withException : SeesWords withException :=
  seesWords_map _ (seesWords_both seesWords_simple
    (seesWords_both (seesWords_literal _) (seesWords_oneToken Identifier.pointsInside_exceptionId)))

theorem seesWords_parenthesized {inner : Parser Expr} (h : SeesWords inner) : SeesWords (parenthesized inner) :=
  seesWords_map _ (seesWords_both (seesWords_literal _) (seesWords_both h (seesWords_literal _)))

theorem seesWords_primary {group : Parser Expr} (h : SeesWords group) : SeesWords (primary group) := by
  refine seesWords_oneOf _ fun p hp => ?_
  rcases List.mem_pair.1 hp with rfl | rfl
  · refine seesWords_oneOf _ fun q hq => ?_
    rcases List.mem_pair.1 hq with rfl | rfl
    · exact seesWords_withException
    · exact seesWords_map _ seesWords_simple
  · exact h

theorem seesWords_level {operand : Parser Expr} (operator : Text) (join : Expr → Expr → Expr) (h : SeesWords operand) :
    SeesWords (level operator join operand) :=
  seesWords_map _ (seesWords_both h (seesWords_maybe (seesWords_both (seesWords_literal _) h)))

theorem seesWords_levels {group : Parser Expr} (h : SeesWords group) : SeesWords (levels group) :=
  seesWords_level _ _ (seesWords_level _ _ (seesWords_primary h))

/-- **The recursive parser sees words only**, whatever its limit. -/
theorem seesWords_compound : ∀ limit : Nat, SeesWords (compound limit)
  | 0 => seesWords_levels (seesWords_parenthesized seesWords_exhausted)
  | limit + 1 => seesWords_levels (seesWords_parenthesized (seesWords_compound limit))

end Grammar

/-! ## Recipes -/

theorem Check.pointsInside_run : ∀ check : Check, Identifier.PointsInside check.run
  | .idString => Identifier.pointsInside_idString.map _
  | .licenseId => Identifier.pointsInside_licenseId.map _
  | .licenseIdAndPlus => Identifier.pointsInside_licenseIdAndPlus.map _
  | .licenseRef => Identifier.pointsInside_licenseRef.map _
  | .exceptionId => Identifier.pointsInside_exceptionId.map _

namespace Recipe

mutual

/-- **Every parser that the combinators can build sees words only.** -/
theorem seesWords [Grammar.Stack] : ∀ r : Recipe, SeesWords r.parser
  | .token check => seesWords_oneToken check.pointsInside_run
  | .literal word => seesWords_map _ (seesWords_literal word)
  | .seq parts => seesWords_map _ (seesWords_seq (seesWords_all parts))
  | .oneOf policy alternatives => seesWords_oneOf policy (seesWords_all alternatives)
  | .maybe part => seesWords_map _ (seesWords_maybe (seesWords part))
  | .mapped f part => seesWords_map f (seesWords part)
  | .simple => seesWords_map _ Grammar.seesWords_simple
  | .withException => seesWords_map _ Grammar.seesWords_withException
  | .compound => seesWords_map _ (Grammar.seesWords_compound _)

theorem seesWords_all [Grammar.Stack] : ∀ rs : List Recipe, ∀ p ∈ parsers rs, SeesWords p
  | [] => fun _ hp => nomatch hp
  | r :: rs => fun p hp => by
    rw [parsers] at hp
    rcases List.mem_cons.1 hp with rfl | hp
    · exact seesWords r
    · exact seesWords_all rs p hp

end

end Recipe

namespace Grammar

variable {s t : Text}

/-! ## Whole texts -/

/-- Two texts are read alike: as one expression, or with one fault at places that correspond, or the parser runs out of
nesting in both, which it reports at their beginnings. -/
inductive SameAnswer (s t : Text) : Except ParseError Expr → Except ParseError Expr → Prop
  | accepted {e : Expr} : SameAnswer s t (.ok e) (.ok e)
  | refused {e f : ParseError} (h : SameFault (.ofText s) (.ofText t) e f) : SameAnswer s t (.error e) (.error f)
  | exhausted : SameAnswer s t
      (.error ⟨.unexpectedToken, s, 0, "expression nested too deeply to parse".toList⟩)
      (.error ⟨.unexpectedToken, t, 0, "expression nested too deeply to parse".toList⟩)

/-- Whether something is left over is a question about the words behind those that were read. -/
theorem sameAnswer_finish (h : Token.words s = Token.words t) {x y : Outcome Expr}
    (hpar : Parallel (.ofText s) (.ofText t) x y) : SameAnswer s t (finish s x) (finish t y) := by
  cases hpar with
  | failed hf => exact .refused hf
  | exhausted => exact .exhausted
  | @done e ts us rest rest' hc hd hw =>
    have hrest : rest.words = rest'.words := by
      rw [Token.words, hc.words_eq, Token.words, hd.words_eq, hw] at h
      exact List.append_cancel_left h
    simp only [finish]
    rcases Cursor.next?_of_words_eq hrest with ⟨hn, hn'⟩ | ⟨w, w', c', d', hn, hn', hww⟩
    · rw [Cursor.peek?_of_next?_none hn, Cursor.peek?_of_next?_none hn']
      exact .accepted
    · rw [Cursor.peek?_of_next?_some hn, Cursor.peek?_of_next?_some hn']
      have hplace := (Cursor.samePlace_starts hn hn' hww).behind hc hd (by simpa using congrArg List.length hw)
      simp only [leftover, hww]
      exact .refused (hplace.sameFault _ _)

/-- The scan for a parenthesis that opens a group too many stops at tokens with one index, or at none. -/
theorem firstTooDeep?_of_words_eq (limit : Int) : ∀ (depth : Nat) {ts us : List Token},
    ts.map (·.text) = us.map (·.text) →
      (firstTooDeep? limit depth ts = none ∧ firstTooDeep? limit depth us = none) ∨
        ∃ (i : Nat) (t u : Token), ts[i]? = some t ∧ us[i]? = some u ∧
          firstTooDeep? limit depth ts = some t ∧ firstTooDeep? limit depth us = some u
  | _, [], [], _ => .inl ⟨rfl, rfl⟩
  | depth, t :: ts, u :: us, h => by
    obtain ⟨htu, h⟩ := List.cons.inj h
    have later (d : Nat) : (firstTooDeep? limit d ts = none ∧ firstTooDeep? limit d us = none) ∨
        ∃ (i : Nat) (t' u' : Token), (t :: ts)[i]? = some t' ∧ (u :: us)[i]? = some u' ∧
          firstTooDeep? limit d ts = some t' ∧ firstTooDeep? limit d us = some u' :=
      (firstTooDeep?_of_words_eq limit d h).imp_right fun ⟨i, t', u', ht, hu, hf⟩ => ⟨i + 1, t', u', ht, hu, hf⟩
    rw [firstTooDeep?, firstTooDeep?, show u.text = t.text from htu.symm]
    by_cases ho : t.text = ['(']
    · rw [if_pos ho, if_pos ho]
      by_cases hd : limit < depth + 1
      · rw [if_pos hd, if_pos hd]
        exact .inr ⟨0, t, u, rfl, rfl, rfl, rfl⟩
      · rw [if_neg hd, if_neg hd]
        exact later _
    · rw [if_neg ho, if_neg ho]
      split <;> exact later _

theorem sameAnswer_parse [Stack] (h : Token.words s = Token.words t) (maxDepth : Option Int) :
    SameAnswer s t (parse s maxDepth) (parse t maxDepth) := by
  have hfree : SameAnswer s t (parseFree s) (parseFree t) := sameAnswer_finish h (seesWords_compound _ h)
  unfold parse
  cases maxDepth with
  | none => exact hfree
  | some n =>
    rw [Option.bind_some, Option.bind_some]
    rcases firstTooDeep?_of_words_eq n 0 h with ⟨hs, ht⟩ | ⟨i, u, v, hu, hv, hs, ht⟩
    · rw [hs, ht]
      exact hfree
    · rw [hs, ht]
      have hplace : SamePlace (.ofText s) (.ofText t) u.start v.start := by
        simpa using SamePlace.inside (k := 0) hu hv ⟨Nat.zero_le _, Nat.zero_le _⟩
      exact .refused (hplace.sameFault _ _)

/-- **Parsers see nothing of a text but its words.**  From two cursors with the same words in front of them, whatever
the spacing and the offsets, every parser that the combinators can build gives parallel answers, and so does the
recursive parser with any limit: both succeed with one value behind equally many tokens, or both fail with one fault at
places that correspond, or both run out of nesting.  Two texts with the same words are read alike under every bound. -/
theorem words_determine_answers [Stack] :
    (∀ (r : Recipe) (c d : Cursor), c.words = d.words → Parallel c d (r.parser c) (r.parser d)) ∧
    (∀ (limit : Nat) (c d : Cursor), c.words = d.words → Parallel c d (compound limit c) (compound limit d)) ∧
    ∀ (s t : Text) (maxDepth : Option Int), Token.words s = Token.words t →
      SameAnswer s t (parse s maxDepth) (parse t maxDepth) :=
  ⟨fun r _ _ h => r.seesWords h, fun limit _ _ h => seesWords_compound limit h,
    fun _ _ maxDepth h => sameAnswer_parse h maxDepth⟩

theorem words_determine_answers_inside_token :
    letI := Stack.least
    let r := Recipe.seq [.maybe (.token .licenseId), .literal "AND".toList, .token .licenseRef]
    let c : Cursor := ⟨"xMIT AND LicenseRef-a/b".toList, 1⟩
    let d : Cursor := ⟨"  MIT  AND LicenseRef-a/b ".toList, 0⟩
    let s := "MIT AND(ISC (".toList
    let t := " MIT  AND ( ISC( ".toList
    c.words = d.words ∧ Parallel c d (r.parser c) (r.parser d) ∧ Token.words s = Token.words t ∧
      SameAnswer s t (parse s (some 1)) (parse t (some 1)) := by
  let _ := Stack.least
  intro r c d s t
  have hwords : c.words = d.words := by decide +kernel
  have hst : Token.words s = Token.words t := by decide +kernel
  obtain ⟨hrecipe, -, hparse⟩ := words_determine_answers
  exact ⟨hwords, hrecipe r c d hwords, hst, hparse s t (some 1) hst⟩

end Grammar
end Licensing
