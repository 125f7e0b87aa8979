import Licensing.Proofs.Grammar.Language
/-!
# Nesting

How many groups of a list of tokens are open at once, counted as the bound on the nesting counts them.  The
parentheses of a sentence balance (`Derives.balanced`), so its nesting is told by that of its parts.
-/
namespace Licensing
namespace Grammar

open Token (Unbroken)

/-- The largest number of groups open at once, where `depth` are open in front.  A parenthesis that closes no group
counts for nothing. -/
def deepest : Nat → List Text → Nat
  | depth, [] => depth
  | depth, t :: ts =>
    if t = ['('] then deepest (depth + 1) ts
    else if t = [')'] then max depth (deepest (depth - 1) ts)
    else deepest depth ts

/-- The largest number of groups of a list of tokens that are open at once. -/
def nesting (ts : List Text) : Nat := deepest 0 ts

theorem deepest_nil (d : Nat) : deepest d [] = d := rfl

theorem deepest_open (d : Nat) (ts : List Text) : deepest d (['('] :: ts) = deepest (d + 1) ts := by
  rw [deepest, if_pos rfl]

theorem deepest_close (d : Nat) (ts : List Text) : deepest d ([')'] :: ts) = max d (deepest (d - 1) ts) := by
  rw [deepest, if_neg (by decide), if_pos rfl]

theorem deepest_unbroken {t : Text} (h : Unbroken t) (d : Nat) (ts : List Text) :
    deepest d (t :: ts) = deepest d ts := by
  rw [deepest, if_neg (h.ne_paren rfl), if_neg (h.ne_paren rfl)]

theorem le_deepest : ∀ (d : Nat) (ts : List Text), d ≤ deepest d ts
  | _, [] => Nat.le_refl _
  | d, t :: ts => by
    rw [deepest]
    split
    · exact Nat.le_of_succ_le (le_deepest (d + 1) ts)
    · split
      · exact Nat.le_max_left _ _
      · exact le_deepest d ts

theorem nesting_word {t : Text} (h : Unbroken t) : nesting [t] = 0 := by
  rw [nesting, deepest_unbroken h, deepest_nil]

theorem deepest_of_unbroken : ∀ {ts : List Text}, (∀ t ∈ ts, Unbroken t) → ∀ d : Nat, deepest d ts = d
  | [], _, _ => rfl
  | t :: ts, h, d => by
    rw [deepest_unbroken (h t List.mem_cons_self)]
    exact deepest_of_unbroken (fun u hu => h u (List.mem_cons_of_mem t hu)) d

/-- Behind these tokens as many groups are open as before them, so what follows is counted from there. -/
def Balanced (ts : List Text) : Prop :=
  ∀ (d : Nat) (us : List Text), deepest d (ts ++ us) = max (d + nesting ts) (deepest d us)

theorem balanced_word {t : Text} (h : Unbroken t) : Balanced [t] := by
  intro d us
  have := le_deepest d us
  rw [List.singleton_append, deepest_unbroken h, nesting_word h]
  omega

theorem Balanced.nesting_append {ts : List Text} (h : Balanced ts) (us : List Text) :
    nesting (ts ++ us) = max (nesting ts) (nesting us) := by
  rw [nesting, h, Nat.zero_add]
  rfl

theorem Balanced.append {ts us : List Text} (ht : Balanced ts) (hu : Balanced us) : Balanced (ts ++ us) := by
  intro d vs
  rw [List.append_assoc, ht, hu, ht.nesting_append]
  omega

theorem Balanced.nesting_group {ts : List Text} (h : Balanced ts) :
    nesting (['('] :: (ts ++ [[')']])) = nesting ts + 1 := by
  rw [nesting, deepest_open, h, deepest_close, deepest_nil]
  omega

theorem Balanced.group {ts : List Text} (h : Balanced ts) : Balanced (['('] :: (ts ++ [[')']])) := by
  intro d us
  have := le_deepest d us
  rw [h.nesting_group, List.cons_append, List.append_assoc, List.singleton_append, deepest_open, h, deepest_close,
    Nat.add_sub_cancel]
  omega

theorem Balanced.operator {op : Text} {ts us : List Text} (ht : Balanced ts) (hop : Unbroken op) (hu : Balanced us) :
    Balanced (ts ++ op :: us) :=
  ht.append ((balanced_word hop).append hu)

theorem Balanced.nesting_operator {op : Text} {ts : List Text} (ht : Balanced ts) (hop : Unbroken op)
    (us : List Text) : nesting (ts ++ op :: us) = max (nesting ts) (nesting us) := by
  rw [ht.nesting_append, nesting, nesting, deepest_unbroken hop]
  rfl

/-- **The parentheses of a sentence balance.** -/
theorem Derives.balanced {l : Level} {ts : List Text} {e : Expr} (h : Derives l ts e) : Balanced ts := by
  induction h with
  | disjunct _ ih | conjunct _ ih => exact ih
  | or _ _ ihl ihr => exact ihl.operator unbroken_or ihr
  | and _ _ ihl ihr => exact ihl.operator unbroken_and ihr
  | withException hs hx =>
    exact (balanced_word hs.unbroken).operator unbroken_with (balanced_word (hx.unbroken Registry.tidy_exceptions))
  | simple hs => exact balanced_word hs.unbroken
  | group _ ih => exact ih.group

end Grammar
end Licensing
