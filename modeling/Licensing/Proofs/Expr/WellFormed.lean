import Licensing.Proofs.Grammar.Language
/-!
# Well-formed expressions

An expression is registered when its names are spelled as the registries and the references spell them, and well-formed
when moreover no or-later license is written like an entry of its own: `GPL-2.0` with the or-later mark is written like
the entry `GPL-2.0+`.  The text of a registered license stands for `Simple.settled` (`Simple.leaf_render`), which is the
license itself exactly when no entry is written like it.
-/
namespace Licensing

open Registry (Names licenses exceptions)
open Grammar (Leaf)

namespace Simple

/-- The name is spelled as in the registry, or consists of idstrings. -/
def Registered : Simple → Prop
  | .id n _ => n ∈ licenses
  | .ref n d => Identifier.IsReference (.ref n d)

/-- The text with the or-later mark is no entry. -/
def Unclaimed : Simple → Prop
  | .id n true => ∀ m, ¬ Names licenses (n ++ ['+']) m
  | _ => True

/-- The license that the text of a license stands for. -/
def settled : Simple → Simple
  | .id n true => match Registry.findLicense? (n ++ ['+']) with
    | some m => .id m false
    | none => .id n true
  | s => s

end Simple

namespace Expr

/-- Every license satisfies `p` and every exception `q`. -/
def Each (p : Simple → Prop) (q : Text → Prop) : Expr → Prop
  | .simple s => p s
  | .withException s x => p s ∧ q x
  | .and l r => l.Each p q ∧ r.Each p q
  | .or l r => l.Each p q ∧ r.Each p q

def Registered : Expr → Prop := Each Simple.Registered (· ∈ exceptions)

def WellFormed : Expr → Prop := Each (fun s => s.Registered ∧ s.Unclaimed) (· ∈ exceptions)

theorem each_iff {p : Simple → Prop} {q : Text → Prop} : ∀ {e : Expr},
    e.Each p q ↔ ∀ l ∈ e.leaves, p l.1 ∧ ∀ x ∈ l.2, q x
  | .simple s => by simp [Each, leaves]
  | .withException s x => by simp [Each, leaves]
  | .and l r => by rw [Each, leaves, List.forall_mem_append, each_iff, each_iff]
  | .or l r => by rw [Each, leaves, List.forall_mem_append, each_iff, each_iff]

/-- The expression of the licenses that the texts of its licenses stand for. -/
def settled : Expr → Expr
  | .simple s => .simple s.settled
  | .withException s x => .withException s.settled x
  | .and l r => .and l.settled r.settled
  | .or l r => .or l.settled r.settled

end Expr

/-! ## The texts of licenses -/

namespace Registry

/-- No entry begins like a reference. -/
theorem not_lead_isPrefix : ∀ lead ∈ [licenseRefLead, documentRefLead], ∀ n ∈ licenses,
    ¬ lead.folded <+: n.folded := by decide +kernel

/-- The entries that stand in the registry with a plus sign behind them, too. -/
def plusFamilies : List Text := ["GPL-1.0", "GPL-2.0", "GPL-3.0", "LGPL-2.0", "LGPL-2.1", "LGPL-3.0"].map String.toList

theorem mem_licenses_of_mem_plusFamilies : ∀ n ∈ plusFamilies, n ∈ licenses ∧ n ++ ['+'] ∈ licenses := by
  decide +kernel

theorem dropLast_mem_plusFamilies : ∀ m ∈ licenses, m.getLast? = some '+' → m.dropLast ∈ plusFamilies := by
  decide +kernel

theorem not_names_refText {n : Text} {d : Option Text} (m : Text) : ¬ Names licenses (refText n d) m := by
  rintro ⟨hm, hf⟩
  cases d with
  | none =>
    refine not_lead_isPrefix licenseRefLead List.mem_cons_self m hm ⟨n.folded, ?_⟩
    rw [hf, refText, Text.folded_append]
  | some d =>
    refine not_lead_isPrefix documentRefLead (List.mem_cons_of_mem _ List.mem_cons_self) m hm
      ⟨(d ++ ':' :: licenseRefLead ++ n).folded, ?_⟩
    rw [hf, refText, ← Text.folded_append]
    simp

/-- **The entry that a registered name with a plus sign behind it names** is spelled like it, and the name is of one of
the few families. -/
theorem names_append_plus_iff {n m : Text} (hn : n ∈ licenses) :
    Names licenses (n ++ ['+']) m ↔ m = n ++ ['+'] ∧ n ∈ plusFamilies := by
  constructor
  · intro hm
    have hfold : m.folded = n.folded ++ ['+'] := by
      rw [hm.2, Text.folded_append]
      rfl
    obtain ⟨u, v, rfl, hu, hv⟩ := List.map_eq_append_iff.1 hfold
    obtain ⟨c, rfl, hc⟩ := List.map_eq_singleton_iff.1 hv
    obtain rfl : c = '+' := Text.lowerAscii_eq_plus_iff.1 hc
    have hmem : u ∈ plusFamilies := by
      have := dropLast_mem_plusFamilies _ hm.1 List.getLast?_concat
      rwa [List.dropLast_concat] at this
    obtain rfl := Names.unique tidy_licenses (Names.self hn) ⟨(mem_licenses_of_mem_plusFamilies u hmem).1, hu⟩
    exact ⟨rfl, hmem⟩
  · rintro ⟨rfl, hmem⟩
    exact Names.self (mem_licenses_of_mem_plusFamilies n hmem).2

end Registry

namespace Identifier

/-- The text of a reference ends with its name, so no plus sign stands behind it. -/
theorem refText_ne_append_plus {n : Text} {d : Option Text} (hn : IsIdString n) (u : Text) :
    refText n d ≠ u ++ ['+'] := by
  intro he
  have hlast : (refText n d).getLast? = n.getLast? := by
    cases d with
    | none => exact List.getLast?_append_of_ne_nil _ hn.1
    | some d => exact List.getLast?_append_of_ne_nil _ hn.1
  rw [he, List.getLast?_concat] at hlast
  cases hn.2 '+' (List.mem_of_getLast? hlast.symm)

end Identifier

namespace Simple

/-- A registered license is unclaimed unless it is the or-later license of such a family. -/
theorem unclaimed_iff : ∀ {s : Simple}, s.Registered → (s.Unclaimed ↔ ∀ n ∈ Registry.plusFamilies, s ≠ .id n true)
  | .id _ false, _ => by simp [Unclaimed]
  | .id n true, h => by
    simp only [Unclaimed, Registry.names_append_plus_iff h]
    constructor
    · rintro hno m hm he
      cases he
      exact hno _ ⟨rfl, hm⟩
    · rintro hno m ⟨-, hm⟩
      exact hno n hm rfl
  | .ref _ _, _ => by simp [Unclaimed]

theorem settled_eq_iff : ∀ {s : Simple}, s.settled = s ↔ s.Unclaimed
  | .id _ false => ⟨fun _ => trivial, fun _ => rfl⟩
  | .id n true => by
    rw [Unclaimed, ← Registry.findLicense?_eq_none_iff, settled]
    cases Registry.findLicense? (n ++ ['+']) <;> simp
  | .ref _ _ => ⟨fun _ => trivial, fun _ => rfl⟩

/-- **The text of a registered license stands for the settled license.** -/
theorem leaf_render : ∀ {s : Simple}, s.Registered → Leaf s.render s.settled
  | .id _ false, h => .id (Names.self h)
  | .id n true, h => by
    cases hf : Registry.findLicense? (n ++ ['+']) with
    | none =>
      rw [settled, hf]
      exact .idAndPlus (Registry.findLicense?_eq_none_iff.1 hf) (Names.self h)
    | some m =>
      rw [settled, hf]
      exact .id (Registry.findLicense?_eq_some_iff.1 hf)
  | .ref _ _, h => .ref Registry.not_names_refText (fun u _ he => absurd he (Identifier.refText_ne_append_plus h.1 u)) h

theorem render_settled : ∀ {s : Simple}, s.Registered → s.settled.render = s.render
  | .id _ false, _ => rfl
  | .id n true, h => by
    cases hf : Registry.findLicense? (n ++ ['+']) with
    | none => rw [settled, hf]
    | some m =>
      rw [settled, hf]
      exact ((Registry.names_append_plus_iff h).1 (Registry.findLicense?_eq_some_iff.1 hf)).1
  | .ref _ _, _ => rfl

end Simple

namespace Expr

theorem settled_eq_iff : ∀ {e : Expr}, e.settled = e ↔ ∀ l ∈ e.leaves, l.1.Unclaimed
  | .simple s => by rw [settled, Expr.simple.injEq, Simple.settled_eq_iff, leaves, List.forall_mem_singleton]
  | .withException s x => by
    rw [settled, Expr.withException.injEq, Simple.settled_eq_iff, leaves, List.forall_mem_singleton]
    exact and_iff_left rfl
  | .and l r => by rw [settled, Expr.and.injEq, settled_eq_iff, settled_eq_iff, leaves, List.forall_mem_append]
  | .or l r => by rw [settled, Expr.or.injEq, settled_eq_iff, settled_eq_iff, leaves, List.forall_mem_append]

/-- An expression is well-formed when it is registered and no text of its licenses is an entry of its own. -/
theorem wellFormed_iff_unclaimed {e : Expr} : e.WellFormed ↔ e.Registered ∧ ∀ l ∈ e.leaves, l.1.Unclaimed := by
  rw [WellFormed, Registered, each_iff, each_iff]
  constructor
  · exact fun h => ⟨fun l hl => ⟨(h l hl).1.1, (h l hl).2⟩, fun l hl => (h l hl).1.2⟩
  · exact fun h l hl => ⟨⟨(h.1 l hl).1, h.2 l hl⟩, (h.1 l hl).2⟩

/-- **An expression is well-formed exactly when it is registered and settled.** -/
theorem wellFormed_iff {e : Expr} : e.WellFormed ↔ e.Registered ∧ e.settled = e := by
  rw [wellFormed_iff_unclaimed, settled_eq_iff]

theorem WellFormed.registered {e : Expr} (h : e.WellFormed) : e.Registered := (wellFormed_iff.1 h).1

end Expr

/-- What a token stands for is registered, and no entry is written like it. -/
theorem Grammar.Leaf.wellFormed {t : Text} {s : Simple} (h : Leaf t s) : s.Registered ∧ s.Unclaimed := by
  cases h with
  | id hn => exact ⟨hn.1, trivial⟩
  | @idAndPlus u n hno hn =>
    refine ⟨hn.1, fun m hm => hno m ((Names.congr ?_).1 hm)⟩
    rw [Text.folded_append, Text.folded_append, hn.2]
  | @ref s _ _ hs =>
    cases s with
    | id n later => exact hs.elim
    | ref n d => exact ⟨hs, trivial⟩

end Licensing
