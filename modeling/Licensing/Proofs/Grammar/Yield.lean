import Licensing.Proofs.Expr.Rendering
import Licensing.Proofs.Grammar.Run
/-!
# Nothing is lost between a text and its expression

The licenses and exceptions of an expression, from left to right, are what the tokens of its text stand for, and its
operators are the operators of the text (`Derives.map_atom?`, `Derives.filter_isOperator`).  Both sides are read off
without the grammar: one off the tree, the other off the list of tokens.
-/
namespace Licensing

open Grammar (Operator)

/-- A license or an exception in an expression. -/
inductive Atom
  | license (s : Simple)
  | exception (name : Text)
  deriving DecidableEq, Repr

namespace Expr

/-- The license of each leaf from left to right, followed by its exception. -/
def atoms (e : Expr) : List Atom := e.leaves.flatMap fun l => .license l.1 :: (l.2.map Atom.exception).toList

/-- The operators between the leaves from left to right. -/
def operators : Expr → List Operator
  | .simple _ => []
  | .withException _ _ => []
  | .and l r => l.operators ++ .and :: r.operators
  | .or l r => l.operators ++ .or :: r.operators

theorem atoms_and (l r : Expr) : (Expr.and l r).atoms = l.atoms ++ r.atoms := List.flatMap_append

theorem atoms_or (l r : Expr) : (Expr.or l r).atoms = l.atoms ++ r.atoms := List.flatMap_append

theorem license_mem_atoms_iff {e : Expr} {s : Simple} : .license s ∈ e.atoms ↔ ∃ l ∈ e.leaves, l.1 = s := by
  simp [atoms, eq_comm]

theorem exception_mem_atoms_iff {e : Expr} {x : Text} : .exception x ∈ e.atoms ↔ ∃ l ∈ e.leaves, l.2 = some x := by
  simp [atoms]

end Expr

namespace Text

theorem mem_insertNew_iff {s t : Text} : ∀ {us : List Text}, s ∈ insertNew t us ↔ s = t ∨ s ∈ us
  | [] => by simp [insertNew]
  | u :: us => by
    rw [insertNew]
    split
    · rename_i h
      simp [h]
    · split
      · simp
      · rw [List.mem_cons, mem_insertNew_iff, List.mem_cons, or_left_comm]

theorem mem_ascending_iff {s : Text} : ∀ {ts : List Text}, s ∈ ascending ts ↔ s ∈ ts
  | [] => Iff.rfl
  | t :: ts => by rw [ascending, List.foldr_cons, mem_insertNew_iff, ← ascending, mem_ascending_iff, List.mem_cons]

end Text

namespace Expr

theorem mem_licenseIds_iff {e : Expr} {i : Text} : i ∈ e.licenseIds ↔ ∃ s, .license s ∈ e.atoms ∧ s.name = i := by
  simp only [licenseIds, Text.mem_ascending_iff, List.mem_map, license_mem_atoms_iff]
  constructor
  · rintro ⟨l, hl, rfl⟩
    exact ⟨l.1, ⟨l, hl, rfl⟩, rfl⟩
  · rintro ⟨_, ⟨l, hl, rfl⟩, rfl⟩
    exact ⟨l, hl, rfl⟩

theorem mem_exceptionIds_iff {e : Expr} {x : Text} : x ∈ e.exceptionIds ↔ .exception x ∈ e.atoms := by
  rw [exceptionIds, Text.mem_ascending_iff, List.mem_filterMap, exception_mem_atoms_iff]

end Expr

namespace Grammar

open Registry (Names licenses exceptions)

/-! ## What tokens stand for -/

/-- The tokens that stand for neither a license nor an exception. -/
def marks : List Text := [['('], [')'], Operator.and.word, Operator.or.word, "WITH".toList]

def isOperator (t : Text) : Bool := t == Operator.and.word || t == Operator.or.word

/-- The tokens other than marks, each with the token in front of it, where `before` comes in front of them all. -/
def operandsBehind : Option Text → List Text → List (Option Text × Text)
  | _, [] => []
  | before, t :: ts => if t ∈ marks then operandsBehind (some t) ts else (before, t) :: operandsBehind (some t) ts

def operands (ts : List Text) : List (Option Text × Text) := operandsBehind none ts

/-- The license that the first successful check makes of a token. -/
def license? (t : Text) : Option Simple :=
  (Identifier.licenseId t).toOption.or
    ((Identifier.licenseIdAndPlus t).toOption.or (Identifier.licenseRef t).toOption)

/-- What a token stands for: right behind `WITH` an exception, and anywhere else a license. -/
def atom? (before : Option Text) (t : Text) : Option Atom :=
  if before = some "WITH".toList then (Identifier.exceptionId t).toOption.map .exception
  else (license? t).map .license

theorem license?_eq_some_iff {t : Text} {s : Simple} : license? t = some s ↔ Leaf t s := by
  simp only [license?, leaf_iff, Option.or_eq_some_iff, toOption_eq_some_iff, toOption_eq_none_iff, ne_eq]

theorem atom?_of_leaf {before : Option Text} {t : Text} {s : Simple} (hb : before ≠ some "WITH".toList)
    (h : Leaf t s) : atom? before t = some (.license s) := by
  rw [atom?, if_neg hb, license?_eq_some_iff.2 h]
  rfl

theorem atom?_of_names {x n : Text} (h : Names exceptions x n) :
    atom? (some "WITH".toList) x = some (.exception n) := by
  rw [atom?, if_pos rfl, Identifier.exceptionId_eq_ok_iff.2 h]
  rfl

/-! ## No identifier is a mark -/

/-- No entry of the registries reads like an operator. -/
theorem folded_ne_mark : ∀ w ∈ marks, ∀ n ∈ licenses ++ exceptions, n.folded ≠ w.folded := by decide +kernel

theorem Leaf.not_mem_marks {t : Text} {s : Simple} (h : Leaf t s) : t ∉ marks := by
  cases h with
  | id hn => exact fun hm => folded_ne_mark t hm _ (List.mem_append_left _ hn.1) hn.2
  | @idAndPlus u n _ _ =>
    intro hm
    have hlast : ∀ w ∈ marks, w.getLast? ≠ some '+' := by decide
    exact hlast _ hm List.getLast?_concat
  | ref _ _ hs =>
    cases s with
    | id n later => exact hs.elim
    | ref n d =>
      intro hm
      have hhead : ∀ w ∈ marks, w.take 3 ≠ "Lic".toList ∧ w.take 3 ≠ "Doc".toList := by decide
      cases d with
      | none => exact (hhead _ hm).1 rfl
      | some d => exact (hhead _ hm).2 rfl

theorem not_mem_marks_of_names {x n : Text} (h : Names exceptions x n) : x ∉ marks := fun hm =>
  folded_ne_mark x hm n (List.mem_append_right _ h.1) h.2

/-! ## The tokens of a sentence -/

theorem operandsBehind_cons_mark {before : Option Text} {t : Text} {ts : List Text} (h : t ∈ marks) :
    operandsBehind before (t :: ts) = operandsBehind (some t) ts := by
  rw [operandsBehind, if_pos h]

theorem operandsBehind_cons {before : Option Text} {t : Text} {ts : List Text} (h : t ∉ marks) :
    operandsBehind before (t :: ts) = (before, t) :: operandsBehind (some t) ts := by
  rw [operandsBehind, if_neg h]

/-- Behind a mark it does not matter what came before it. -/
theorem operandsBehind_append_mark {m : Text} (hm : m ∈ marks) (us : List Text) :
    ∀ (before : Option Text) (ts : List Text),
      operandsBehind before (ts ++ m :: us) = operandsBehind before ts ++ operandsBehind (some m) us
  | before, [] => operandsBehind_cons_mark hm
  | before, t :: ts => by
    have ih := operandsBehind_append_mark hm us (some t) ts
    by_cases ht : t ∈ marks
    · rw [List.cons_append, operandsBehind_cons_mark ht, operandsBehind_cons_mark ht, ih]
    · rw [List.cons_append, operandsBehind_cons ht, operandsBehind_cons ht, ih, List.cons_append]

/-- **What the tokens of a sentence stand for are the licenses and exceptions of its expression**, in their order.  No
sentence begins right behind `WITH`. -/
theorem Derives.map_atom? {l : Level} {ts : List Text} {e : Expr} (h : Derives l ts e) :
    ∀ {before : Option Text}, before ≠ some "WITH".toList →
      (operandsBehind before ts).map (fun p => atom? p.1 p.2) = e.atoms.map some := by
  induction h with
  | disjunct _ ih | conjunct _ ih => exact ih
  | or _ _ ihl ihr =>
    intro before hb
    rw [operandsBehind_append_mark (by decide), List.map_append, ihl hb, ihr (by decide), Expr.atoms_or,
      List.map_append]
  | and _ _ ihl ihr =>
    intro before hb
    rw [operandsBehind_append_mark (by decide), List.map_append, ihl hb, ihr (by decide), Expr.atoms_and,
      List.map_append]
  | withException hs hx =>
    intro before hb
    rw [operandsBehind_cons hs.not_mem_marks, operandsBehind_cons_mark (by decide),
      operandsBehind_cons (not_mem_marks_of_names hx), List.map_cons, List.map_cons, atom?_of_leaf hb hs,
      atom?_of_names hx]
    rfl
  | simple hs =>
    intro before hb
    rw [operandsBehind_cons hs.not_mem_marks, List.map_cons, atom?_of_leaf hb hs]
    rfl
  | group _ ih =>
    intro before hb
    rw [operandsBehind_cons_mark (by decide), operandsBehind_append_mark (by decide), List.map_append, ih (by decide)]
    exact List.append_nil _

/-- **The operators of a sentence are those of its expression**, in their order. -/
theorem Derives.filter_isOperator {l : Level} {ts : List Text} {e : Expr} (h : Derives l ts e) :
    ts.filter isOperator = e.operators.map Operator.word := by
  have hmark : ∀ {t : Text}, t ∉ marks → isOperator t = false := fun ht => by
    simp only [marks, List.mem_cons, not_or] at ht
    simp [isOperator, ht]
  induction h with
  | disjunct _ ih | conjunct _ ih => exact ih
  | or _ _ ihl ihr | and _ _ ihl ihr =>
    rw [List.filter_append, List.filter_cons_of_pos (by decide), ihl, ihr, Expr.operators, List.map_append]
    rfl
  | withException hs hx =>
    rw [List.filter_cons_of_neg (by simp [hmark hs.not_mem_marks]), List.filter_cons_of_neg (by decide),
      List.filter_cons_of_neg (by simp [hmark (not_mem_marks_of_names hx)])]
    rfl
  | simple hs =>
    rw [List.filter_cons_of_neg (by simp [hmark hs.not_mem_marks])]
    rfl
  | group _ ih =>
    rw [List.filter_cons_of_neg (by decide), List.filter_append, ih, List.filter_cons_of_neg (by decide)]
    exact List.append_nil _

/-- **Nothing in an accepted text is lost, invented or reordered**: the licenses and exceptions of the expression are
what the tokens stand for, its operators are those of the text, and so the identifiers that it collects are those of
the tokens. -/
theorem parse_keeps_tokens [Stack] {text : Text} {maxDepth : Option Int} {e : Expr} (h : parse text maxDepth = .ok e) :
    (operands (Token.words text)).map (fun p => atom? p.1 p.2) = e.atoms.map some ∧
      (Token.words text).filter isOperator = e.operators.map Operator.word ∧
      (∀ i, i ∈ e.licenseIds ↔
        ∃ p ∈ operands (Token.words text), ∃ s, atom? p.1 p.2 = some (.license s) ∧ s.name = i) ∧
      ∀ x, x ∈ e.exceptionIds ↔ ∃ p ∈ operands (Token.words text), atom? p.1 p.2 = some (.exception x) := by
  have hd := (derives_of_parseFree (parseFree_of_parse h)).1
  have hatoms : (operands (Token.words text)).map (fun p => atom? p.1 p.2) = e.atoms.map some := hd.map_atom? nofun
  have hmem : ∀ a, a ∈ e.atoms ↔ ∃ p ∈ operands (Token.words text), atom? p.1 p.2 = some a := fun a => by
    rw [← List.mem_map_of_injective (Option.some_injective Atom), ← hatoms, List.mem_map]
  refine ⟨hatoms, hd.filter_isOperator, fun i => ?_, fun x => ?_⟩
  · rw [Expr.mem_licenseIds_iff]
    simp only [hmem]
    constructor
    · rintro ⟨s, ⟨p, hp, hs⟩, hi⟩
      exact ⟨p, hp, s, hs, hi⟩
    · rintro ⟨p, hp, s, hs, hi⟩
      exact ⟨s, ⟨p, hp, hs⟩, hi⟩
  · rw [Expr.mem_exceptionIds_iff, hmem]

theorem parse_keeps_tokens_of_group :
    letI := Stack.least
    let text := "isc+ AND ((gpl-2.0+ WITH classpath-exception-2.0)OR LicenseRef-x)".toList
    let gpl := Simple.id "GPL-2.0+".toList false
    let e := Expr.and (.simple (.id "ISC".toList true))
      (.or (.withException gpl "Classpath-exception-2.0".toList) (.simple (.ref "x".toList none)))
    parse text (some 2) = .ok e ∧
      (operands (Token.words text)).map (fun p => atom? p.1 p.2) =
        [some (.license (.id "ISC".toList true)), some (.license gpl),
          some (.exception "Classpath-exception-2.0".toList), some (.license (.ref "x".toList none))] ∧
      (Token.words text).filter isOperator = ["AND".toList, "OR".toList] ∧
      "GPL-2.0+".toList ∈ e.licenseIds ∧ "Classpath-exception-2.0".toList ∈ e.exceptionIds := by
  let _ := Stack.least
  intro text gpl e
  have hp : parse text (some 2) = .ok e := by decide +kernel
  obtain ⟨hatoms, hoperators, hlicenses, hexceptions⟩ := parse_keeps_tokens hp
  have hgpl : (some "(".toList, "gpl-2.0+".toList) ∈ operands (Token.words text) := by decide +kernel
  have hx : (some "WITH".toList, "classpath-exception-2.0".toList) ∈ operands (Token.words text) := by decide +kernel
  exact ⟨hp, hatoms, hoperators, (hlicenses _).2 ⟨_, hgpl, gpl, by decide +kernel, rfl⟩,
    (hexceptions _).2 ⟨_, hx, by decide +kernel⟩⟩

end Grammar
end Licensing
