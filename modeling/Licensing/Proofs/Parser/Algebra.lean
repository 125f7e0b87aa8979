import Licensing.Parser
/-!
# The algebra of parsers

Parsers that run one after the other are a monad, and a sequence inside a sequence may be spliced (`seq_splice`).  A
choice that reports the last error folds an associative operation over its alternatives (`orElse`), so a choice inside a
choice may be spliced too (`oneOf_splice`).  What two alternatives begin with may be read once (`bind_orElse`): the
second alternative starts where the first one did, and a parser gives one answer at one cursor.

All of these are equations between parsers, so they hold of the value, the place behind it, the error, and of running
out of nesting.
-/
namespace Licensing
namespace Parser

variable {α β γ : Type}

/-! ## One after the other -/

protected theorem bind_pure (p : Parser α) : p.bind pure = p := by
  funext c
  unfold bind
  cases p c <;> rfl

protected theorem bind_assoc (p : Parser α) (f : α → Parser β) (g : β → Parser γ) :
    (p.bind f).bind g = p.bind fun a => (f a).bind g := by
  funext c
  unfold bind
  cases p c <;> rfl

protected theorem map_id (p : Parser α) : p.map (fun a => a) = p := p.bind_pure

protected theorem map_map (p : Parser α) (f : α → β) (g : β → γ) : (p.map f).map g = p.map fun a => g (f a) :=
  p.bind_assoc _ _

protected theorem map_bind (p : Parser α) (f : α → Parser β) (g : β → γ) :
    (p.bind f).map g = p.bind fun a => (f a).map g :=
  p.bind_assoc _ _

protected theorem bind_map (p : Parser α) (f : α → β) (g : β → Parser γ) :
    (p.map f).bind g = p.bind fun a => g (f a) :=
  p.bind_assoc _ _

theorem map_both (p : Parser α) (q : Parser β) (f : α × β → γ) :
    (p.both q).map f = p.bind fun a => q.map fun b => f (a, b) := by
  simp only [both, Parser.map_bind, Parser.map_map]

/-! ## Sequences -/

theorem seq_singleton (p : Parser α) : seq [p] = p.map ([·]) := rfl

theorem seq_pair (p q : Parser α) : seq [p, q] = (p.both q).map fun r => [r.1, r.2] := by
  rw [map_both, seq, seq_singleton]
  simp only [Parser.map_map]

theorem seq_append (qs : List (Parser α)) : ∀ ps : List (Parser α),
    seq (ps ++ qs) = (seq ps).bind fun as => (seq qs).map (as ++ ·)
  | [] => (seq qs).map_id.symm
  | p :: ps => by
    rw [List.cons_append, seq, seq_append qs ps, seq]
    simp only [Parser.map_bind, Parser.bind_assoc, Parser.bind_map, Parser.map_map, List.cons_append]

/-- The values with the one at an index replaced by its parts. -/
def spliceAt (parts : α → List α) : Nat → List α → List α
  | _, [] => []
  | 0, v :: vs => parts v ++ vs
  | n + 1, v :: vs => v :: spliceAt parts n vs

/-- **A sequence inside a sequence may be spliced**, where its value is spliced as well.  The induction is on the parts
in front of it, which the splice leaves alone. -/
theorem seq_splice {tuple : List α → α} {parts : α → List α} (hparts : ∀ vs, parts (tuple vs) = vs)
    (qs rs : List (Parser α)) : ∀ ps : List (Parser α),
      (seq (ps ++ (seq qs).map tuple :: rs)).map (spliceAt parts ps.length) = seq (ps ++ qs ++ rs)
  | [] => by
    calc (seq ((seq qs).map tuple :: rs)).map (spliceAt parts 0)
        = (seq qs).bind fun bs => (seq rs).map (parts (tuple bs) ++ ·) := by
          rw [seq]
          simp only [Parser.map_bind, Parser.bind_map, Parser.map_map, spliceAt]
      _ = seq (qs ++ rs) := by simp only [hparts, seq_append]
  | p :: ps => by
    calc (seq (p :: (ps ++ (seq qs).map tuple :: rs))).map (spliceAt parts (ps.length + 1))
        = p.bind fun a => ((seq (ps ++ (seq qs).map tuple :: rs)).map (spliceAt parts ps.length)).map (a :: ·) := by
          rw [seq]
          simp only [Parser.map_bind, Parser.map_map, spliceAt]
      _ = p.bind fun a => (seq (ps ++ qs ++ rs)).map (a :: ·) := by rw [seq_splice hparts qs rs ps]

/-! ## Choices -/

/-- The first parser, or the second one where the first fails. -/
def orElse (p q : Parser α) : Parser α := fun c =>
  match p c with
  | .done a rest => .done a rest
  | .failed _ => q c
  | .exhausted => .exhausted

theorem orElse_assoc (p q r : Parser α) : (p.orElse q).orElse r = p.orElse (q.orElse r) := by
  funext c
  unfold orElse
  cases p c <;> rfl

theorem map_orElse (p q : Parser α) (f : α → β) : (p.orElse q).map f = (p.map f).orElse (q.map f) := by
  funext c
  simp only [orElse, map, bind]
  cases p c <;> rfl

/-- **What two alternatives begin with may be read once.**  Where it fails, the second alternative fails with the same
error as the first. -/
theorem bind_orElse (p : Parser α) (f g : α → Parser β) :
    (p.bind f).orElse (p.bind g) = p.bind fun a => (f a).orElse (g a) := by
  funext c
  unfold orElse bind
  cases p c <;> rfl

theorem maybe_eq_orElse (q : Parser α) : maybe q = (q.map some).orElse (pure none) := by
  funext c
  unfold maybe orElse map bind
  cases q c <;> rfl

/-- Where an alternative is left, the errors so far do not matter. -/
theorem tryEach_last_cons (errors : List ParseError) (p : Parser α) (ps : List (Parser α)) :
    tryEach .last errors (p :: ps) = oneOf .last (p :: ps) := by
  funext c
  unfold oneOf tryEach
  cases p c with
  | done a rest => rfl
  | exhausted => rfl
  | failed e =>
    cases ps with
    | nil => rfl
    | cons q qs => exact congrFun ((tryEach_last_cons (e :: errors) q qs).trans (tryEach_last_cons [e] q qs).symm) c

theorem oneOf_singleton (p : Parser α) : oneOf .last [p] = p := by
  funext c
  unfold oneOf tryEach
  cases p c <;> rfl

theorem oneOf_cons_cons (p q : Parser α) (qs : List (Parser α)) :
    oneOf .last (p :: q :: qs) = p.orElse (oneOf .last (q :: qs)) := by
  funext c
  rw [← tryEach_last_cons []]
  unfold tryEach orElse
  cases p c with
  | done a rest => rfl
  | exhausted => rfl
  | failed e => exact congrFun (tryEach_last_cons [e] q qs) c

theorem oneOf_append (q : Parser α) (qs : List (Parser α)) : ∀ (p : Parser α) (ps : List (Parser α)),
    oneOf .last (p :: ps ++ q :: qs) = (oneOf .last (p :: ps)).orElse (oneOf .last (q :: qs))
  | p, [] => by rw [oneOf_singleton, List.singleton_append, oneOf_cons_cons]
  | p, p' :: ps => by
    rw [oneOf_cons_cons p p' ps, orElse_assoc, ← oneOf_append q qs p' ps]
    exact oneOf_cons_cons p p' (ps ++ q :: qs)

/-- A choice at the head of a choice. -/
theorem oneOf_splice_head (q : Parser α) (qs rs : List (Parser α)) :
    oneOf .last (oneOf .last (q :: qs) :: rs) = oneOf .last (q :: qs ++ rs) := by
  cases rs with
  | nil => rw [oneOf_singleton, List.append_nil]
  | cons r rs => rw [oneOf_cons_cons, oneOf_append]

/-- **A choice inside a choice may be spliced.**  It has to have an alternative, or else it would fail with an error of
its own. -/
theorem oneOf_splice (ps : List (Parser α)) (q : Parser α) (qs rs : List (Parser α)) :
    oneOf .last (ps ++ oneOf .last (q :: qs) :: rs) = oneOf .last (ps ++ q :: qs ++ rs) := by
  cases ps with
  | nil => exact oneOf_splice_head q qs rs
  | cons p ps =>
    calc oneOf .last (p :: ps ++ oneOf .last (q :: qs) :: rs)
        = (oneOf .last (p :: ps)).orElse (oneOf .last (oneOf .last (q :: qs) :: rs)) := oneOf_append _ _ _ _
      _ = (oneOf .last (p :: ps)).orElse (oneOf .last (q :: (qs ++ rs))) := by
          rw [oneOf_splice_head, List.cons_append]
      _ = oneOf .last (p :: ps ++ q :: qs ++ rs) := by
          rw [← oneOf_append, List.append_assoc]
          rfl

/-- **Two parts, or the first one alone, are the first one and perhaps the second**, whatever is made of the values. -/
theorem oneOf_left_factored (p : Parser α) (q : Parser β) (pair : α × β → γ) (alone : α → γ) :
    oneOf .last [(p.both q).map pair, p.map alone] =
      (p.both (maybe q)).map fun r => r.2.elim (alone r.1) fun b => pair (r.1, b) := by
  have htail (a : α) : (q.map fun b => pair (a, b)).orElse (pure (alone a)) =
      (maybe q).map fun o => o.elim (alone a) fun b => pair (a, b) := by
    rw [maybe_eq_orElse, map_orElse, Parser.map_map]
    rfl
  calc oneOf .last [(p.both q).map pair, p.map alone]
      = (p.bind fun a => q.map fun b => pair (a, b)).orElse (p.bind fun a => pure (alone a)) := by
        rw [oneOf_cons_cons, oneOf_singleton, map_both]
        rfl
    _ = p.bind fun a => (q.map fun b => pair (a, b)).orElse (pure (alone a)) := bind_orElse _ _ _
    _ = p.bind fun a => (maybe q).map fun o => o.elim (alone a) fun b => pair (a, b) := by simp only [htail]
    _ = (p.both (maybe q)).map fun r => r.2.elim (alone r.1) fun b => pair (r.1, b) := by rw [map_both]

/-- The same where all values are of one type and a sequence yields a tuple of them. -/
theorem oneOf_seq_pair (tuple : List α → α) (p q : Parser α) :
    oneOf .last [(seq [p, q]).map tuple, p] =
      (p.both (maybe q)).map fun r => r.2.elim r.1 fun b => tuple [r.1, b] := by
  have h := oneOf_left_factored p q (fun r => tuple [r.1, r.2]) fun a => a
  rw [Parser.map_id] at h
  rw [seq_pair, Parser.map_map]
  exact h

theorem seq_pair_maybe (absent : α) (p q : Parser α) :
    seq [p, (maybe q).map (·.getD absent)] = (p.both (maybe q)).map fun r => [r.1, r.2.getD absent] := by
  rw [seq_pair, map_both, map_both]
  simp only [Parser.map_map]

end Parser
end Licensing
