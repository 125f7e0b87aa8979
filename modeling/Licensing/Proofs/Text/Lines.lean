import Licensing.Proofs.Text.Pieces
import Licensing.Text
/-!
# The first lines of a text

The lines of a text, one character at a time, and the beginning of a text that holds its first lines: cutting a text
behind its first `n` lines is taking the first `n` of its lines (`lines_front`).
-/
namespace Licensing

section

variable {α : Type} [DecidableEq α]

/-- What the first `n` lines hold, with the ends of the lines.  A line ends behind a line feed, and behind a carriage
return that no line feed follows; it makes no difference whether it is one of characters or of bytes. -/
def front (lf cr : α) : Nat → List α → List α
  | 0, _ => []
  | _ + 1, [] => []
  | n + 1, x :: xs =>
    if x = lf ∨ x = cr ∧ xs.head? ≠ some lf then x :: front lf cr n xs else x :: front lf cr (n + 1) xs

variable {lf cr : α}

theorem front_of_ends {x : α} {xs : List α} (n : Nat) (h : x = lf ∨ x = cr ∧ xs.head? ≠ some lf) :
    front lf cr (n + 1) (x :: xs) = x :: front lf cr n xs := by
  rw [front, if_pos h]

theorem front_of_not_ends {x : α} {xs : List α} (n : Nat) (h : ¬ (x = lf ∨ x = cr ∧ xs.head? ≠ some lf)) :
    front lf cr (n + 1) (x :: xs) = x :: front lf cr (n + 1) xs := by
  rw [front, if_neg h]

theorem front_lf (n : Nat) (xs : List α) : front lf cr (n + 1) (lf :: xs) = lf :: front lf cr n xs :=
  front_of_ends n (.inl rfl)

theorem front_cr (n : Nat) {xs : List α} (h : xs.head? ≠ some lf) :
    front lf cr (n + 1) (cr :: xs) = cr :: front lf cr n xs :=
  front_of_ends n (.inr ⟨rfl, h⟩)

theorem front_crlf (hne : cr ≠ lf) (n : Nat) (xs : List α) :
    front lf cr (n + 1) (cr :: lf :: xs) = cr :: lf :: front lf cr n xs := by
  rw [front_of_not_ends n (by simp [hne]), front_lf]

theorem front_cons {x : α} (hlf : x ≠ lf) (hcr : x ≠ cr) (n : Nat) (xs : List α) :
    front lf cr (n + 1) (x :: xs) = x :: front lf cr (n + 1) xs :=
  front_of_not_ends n (by simp [hlf, hcr])

/-- What holds no end of a line stands in the first line. -/
theorem front_append (n : Nat) (xs : List α) : ∀ {q : List α}, (∀ x ∈ q, x ≠ lf ∧ x ≠ cr) →
    front lf cr (n + 1) (q ++ xs) = q ++ front lf cr (n + 1) xs
  | [], _ => rfl
  | x :: q, h => by
    obtain ⟨hx, hq⟩ := List.forall_mem_cons.1 h
    rw [List.cons_append, front_cons hx.1 hx.2, front_append n xs hq, List.cons_append]

theorem head?_front_ne {n : Nat} {xs : List α} {y : α} (h : xs.head? ≠ some y) : (front lf cr n xs).head? ≠ some y := by
  cases n with
  | zero => simp [front]
  | succ n =>
    cases xs with
    | nil => exact h
    | cons x xs =>
      rw [front]
      split <;> exact h

end

namespace Text

/-! ## Lines, one character at a time -/

theorem unifyEnds_crlf (t : Text) : unifyEnds ('\r' :: '\n' :: t) = '\n' :: unifyEnds t := by rw [unifyEnds]

theorem unifyEnds_cons {c : Char} {t : Text} (h : c = '\r' → t.head? ≠ some '\n') :
    unifyEnds (c :: t) = (if c = '\r' then '\n' else c) :: unifyEnds t := by
  rw [unifyEnds]
  rintro u rfl rfl
  exact h rfl rfl

theorem dropLastEmpty_cons (l : Text) {ls : List Text} (h : ls ≠ []) :
    dropLastEmpty (l :: ls) = l :: dropLastEmpty ls := by
  rw [dropLastEmpty]
  exact h

theorem dropLastEmpty_splitAt_lf (t : Text) :
    dropLastEmpty (splitAt '\n' ('\n' :: t)) = [] :: dropLastEmpty (splitAt '\n' t) := by
  rw [splitAt, if_pos rfl, dropLastEmpty_cons [] (splitAt_ne_nil '\n' t)]

/-- A character in front of the first line. -/
def pushFirst (c : Char) : List Text → List Text
  | [] => [[c]]
  | l :: ls => (c :: l) :: ls

theorem take_pushFirst (c : Char) (n : Nat) (ls : List Text) :
    (pushFirst c ls).take (n + 1) = pushFirst c (ls.take (n + 1)) := by
  cases ls <;> simp [pushFirst]

theorem lines_lf (t : Text) : lines ('\n' :: t) = [] :: lines t := by
  rw [lines, unifyEnds_cons fun h => absurd h (by decide), if_neg (by decide), dropLastEmpty_splitAt_lf, lines]

theorem lines_crlf (t : Text) : lines ('\r' :: '\n' :: t) = [] :: lines t := by
  rw [lines, unifyEnds_crlf, dropLastEmpty_splitAt_lf, lines]

theorem lines_cr {t : Text} (h : t.head? ≠ some '\n') : lines ('\r' :: t) = [] :: lines t := by
  rw [lines, unifyEnds_cons fun _ => h, if_pos rfl, dropLastEmpty_splitAt_lf, lines]

theorem lines_cons {c : Char} (hlf : c ≠ '\n') (hcr : c ≠ '\r') (t : Text) :
    lines (c :: t) = pushFirst c (lines t) := by
  rw [lines, unifyEnds_cons fun h => absurd h hcr, if_neg hcr, lines, splitAt, if_neg hlf]
  cases h : splitAt '\n' (unifyEnds t) with
  | nil => exact absurd h (splitAt_ne_nil _ _)
  | cons l ls =>
    cases ls with
    | nil => cases l <;> rfl
    | cons m ls =>
      rw [dropLastEmpty_cons l (List.cons_ne_nil m ls), pushFirst]
      exact dropLastEmpty_cons (c :: l) (List.cons_ne_nil m ls)

/-- What holds no end of a line stands in front of the first end. -/
theorem lines_append {t l : Text} {ls : List Text} (ht : lines t = [] :: ls) (hl : ∀ c ∈ l, c ≠ '\n' ∧ c ≠ '\r') :
    lines (l ++ t) = l :: ls := by
  induction l with
  | nil => exact ht
  | cons c l ih =>
    obtain ⟨hc, hl⟩ := List.forall_mem_cons.1 hl
    rw [List.cons_append, lines_cons hc.1 hc.2, ih hl]
    rfl

/-- **Cutting a text behind its first lines is taking the first of its lines.** -/
theorem lines_front : ∀ (n : Nat) (t : Text), lines (front '\n' '\r' n t) = (lines t).take n
  | 0, t => by rw [front, List.take_zero]; rfl
  | _ + 1, [] => rfl
  | n + 1, c :: t => by
    by_cases hlf : c = '\n'
    · rw [hlf, front_lf, lines_lf, lines_front n t, lines_lf, List.take_succ_cons]
    by_cases hcr : c = '\r'
    · by_cases hh : t.head? = some '\n'
      · cases t with
        | nil => cases hh
        | cons d t =>
          obtain rfl := Option.some.inj hh
          rw [hcr, front_crlf (by decide), lines_crlf, lines_front n t, lines_crlf, List.take_succ_cons]
      · rw [hcr, front_cr n hh, lines_cr (head?_front_ne hh), lines_front n t, lines_cr hh, List.take_succ_cons]
    · rw [front_cons hlf hcr, lines_cons hlf hcr, lines_front (n + 1) t, lines_cons hlf hcr, take_pushFirst]

end Text
end Licensing
