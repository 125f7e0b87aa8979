import Licensing.Proofs.Grammar.Refusal
/-!
# Running out of nesting

A parser with a limit is compared with the run that has none (`parse_exhausted_iff_run_exceeds`).  It runs out of
nesting exactly when the run opens more groups at once than the limit allows, wherever in the text this happens, and
otherwise both end alike.  No optional part and no choice hides that a part of it ran out of nesting.
-/
namespace Licensing
namespace Grammar

open Licensing.Parser

variable {text : Text}

/-- What stands behind a sentence that no operator carries on is not reached. -/
theorem Derives.parseWithin_ne_exhaustion {ts more : List Text} {e : Expr} {limit : Nat} (h : Derives .compound ts e)
    (hwords : Token.words text = ts ++ more) (hmore : ∀ w ∈ more.head?, w ∉ Level.compound.operators)
    (hn : nesting ts ≤ limit) : parseWithin limit text ≠ .error (exhaustion text) := by
  rcases h.accepted limit hwords hmore with ⟨rest, hd, -⟩ | ⟨-, hlt⟩
  · rw [parseWithin, compound_eq, hd]
    exact finish_done_ne_exhaustion e rest
  · exact absurd hn (Nat.not_le.2 hlt)

/-- **Running out of nesting is never disguised.**  An optional part runs out of nesting when what it holds does, and a
choice when an alternative that is reached does.  Each text has one run; a parser with a limit fails for want of nesting
if and only if that run opens more groups at once than the limit, and in every other case it gives the answer of the
run.  Groups behind a sentence that no operator carries on do not count. -/
theorem parse_exhausted_iff_run_exceeds [Stack] :
    (∀ (α : Type) (p : Parser α) (c : Cursor), maybe p c = .exhausted ↔ p c = .exhausted) ∧
    (∀ (α : Type) (policy : Policy) (ps : List (Parser α)) (c : Cursor), oneOf policy ps c = .exhausted ↔
      ∃ (before : List (Parser α)) (p : Parser α) (after : List (Parser α)),
        ps = before ++ p :: after ∧ (∀ q ∈ before, ∃ f, q c = .failed f) ∧ p c = .exhausted) ∧
    (∀ text : Text, ∃ r d, Run .compound (.ofText text) r d ∧
      (∀ r' d', Run .compound (.ofText text) r' d' → r' = r ∧ d' = d) ∧
      ∀ limit : Nat,
        (parseWithin limit text =
          .error ⟨.unexpectedToken, text, 0, "expression nested too deeply to parse".toList⟩ ↔ limit < d) ∧
        (d ≤ limit → parseWithin limit text = finish text r)) ∧
    (∀ text : Text, parse text none = parseWithin Stack.groups text) ∧
    ∀ (limit : Nat) (text : Text) (ts more : List Text) (e : Expr), Derives .compound ts e →
      Token.words text = ts ++ more → (∀ w ∈ more.head?, w ∉ Level.compound.operators) → nesting ts ≤ limit →
      parseWithin limit text ≠ .error (exhaustion text) := by
  refine ⟨fun α p c => maybe_eq_exhausted_iff, fun α policy ps c => tryEach_eq_exhausted_iff, fun text => ?_,
    parse_none_eq, fun limit text ts more e h => h.parseWithin_ne_exhaustion⟩
  obtain ⟨r, d, h⟩ := exists_run (.ofText text)
  refine ⟨r, d, h, fun r' d' h' => ?_, fun limit => ⟨h.parseWithin_eq_exhaustion_iff, h.parseWithin_eq⟩⟩
  exact h'.unique h

theorem exhausted_behind_operator_only :
    letI := Stack.least
    let reached := "MIT AND (((ISC".toList
    let behind := "MIT ((((".toList
    (∃ r d, Run .compound (.ofText reached) r d ∧ 2 < d) ∧
      parseWithin 2 behind ≠ .error (exhaustion behind) := by
  let _ := Stack.least
  intro reached behind
  have hx : parseWithin 2 reached = .error (exhaustion reached) := by decide +kernel
  have hm : Derives .compound ["MIT".toList] (.simple (.id "MIT".toList false)) :=
    .disjunct (.conjunct (.simple (.id ⟨by decide +kernel, rfl⟩)))
  obtain ⟨-, -, hrun, -, hbehind⟩ := parse_exhausted_iff_run_exceeds
  obtain ⟨r, d, hr, -, hl⟩ := hrun reached
  exact ⟨⟨r, d, hr, (hl 2).1.1 hx⟩,
    hbehind 2 behind _ (List.replicate 4 ['(']) _ hm (by decide) (by decide) (by decide)⟩

end Grammar
end Licensing
