import Mathlib.Logic.Relation
import Licensing.Path
import Licensing.Proofs.Text.Pieces
/-!
# Paths inside other paths

A path that lies strictly inside a root is the root continued by the components that are left when the root is stripped
(`stripRoot_exact`).  The text of a path is read as the path again, and slashes and dots that only pad a text make no
difference.
-/
namespace Licensing
namespace Path

/-! ## Texts of paths -/

/-- The components that a text spells. -/
def components (t : Text) : List Text := (Text.splitAt '/' t).filter isPart

theorem ofText_eq (t : Text) : ofText t = ⟨anchorOf t, components t⟩ := rfl

theorem components_append (s t : Text) : components (s ++ '/' :: t) = components s ++ components t := by
  rw [components, Text.splitAt_append, List.filter_append]
  rfl

theorem components_slash (t : Text) : components ('/' :: t) = components t := components_append [] t

/-- What a path is made of: no slash, not empty, and not a single dot. -/
structure IsComponent (p : Text) : Prop where
  part : isPart p = true
  slash : '/' ∉ p

theorem IsComponent.exists_cons {p : Text} (h : IsComponent p) : ∃ c t, p = c :: t ∧ c ≠ '/' := by
  cases p with
  | nil => exact absurd h.part (by decide)
  | cons c t => exact ⟨c, t, rfl, fun hc => h.slash (hc ▸ List.mem_cons_self)⟩

theorem isComponent_of_mem {t p : Text} (h : p ∈ components t) : IsComponent p := by
  obtain ⟨hmem, hpart⟩ := List.mem_filter.1 h
  exact ⟨hpart, Text.not_mem_of_mem_splitAt p hmem⟩

/-- **Joined components are spelled by the text.** -/
theorem components_join {ps : List Text} (hne : ps ≠ []) (h : ∀ p ∈ ps, IsComponent p) :
    components (Text.join ['/'] ps) = ps := by
  rw [components, Text.splitAt_join hne fun p hp => (h p hp).slash, List.filter_eq_self]
  exact fun p hp => (h p hp).part

theorem exists_join_eq_cons {ps : List Text} (hne : ps ≠ []) (h : ∀ p ∈ ps, IsComponent p) :
    ∃ c t, Text.join ['/'] ps = c :: t ∧ c ≠ '/' := by
  obtain ⟨p, ps, rfl⟩ := List.exists_cons_of_ne_nil hne
  obtain ⟨c, t, rfl, hc⟩ := (h p List.mem_cons_self).exists_cons
  cases ps with
  | nil => exact ⟨c, t, by rw [Text.join, List.intercalate_singleton], hc⟩
  | cons q ps => exact ⟨c, t ++ '/' :: Text.join ['/'] (q :: ps), by simp [Text.join_cons_cons], hc⟩

theorem anchorOf_relative {c : Char} (hc : c ≠ '/') (t : Text) : anchorOf (c :: t) = .relative := by
  simp [anchorOf, hc]

/-- Only the slashes in front decide on the anchor. -/
theorem anchorOf_append {s : Text} (h : ∃ c ∈ s, c ≠ '/') (t : Text) : anchorOf (s ++ t) = anchorOf s := by
  obtain ⟨d, hd, hne⟩ := h
  match s, hd with
  | [c], hd =>
    obtain rfl := List.mem_singleton.1 hd
    rw [anchorOf_relative hne, List.cons_append, anchorOf_relative hne]
  | [c, c'], hd =>
    by_cases hc : c = '/'
    · have hc' : c' ≠ '/' := by
        rintro rfl
        rcases List.mem_cons.1 hd with rfl | hd
        · exact hne hc
        · exact hne (List.mem_singleton.1 hd)
      simp [anchorOf, hc, hc']
    · simp [anchorOf, hc]
  | c :: c' :: c'' :: s, hd =>
    by_cases hc : c = '/'
    · by_cases hc' : c' = '/'
      · by_cases hc'' : c'' = '/' <;> simp [anchorOf, hc, hc', hc'']
      · simp [anchorOf, hc, hc']
    · simp [anchorOf, hc]

/-- An anchor in front of a component is read as that anchor. -/
theorem anchorOf_text (a : Anchor) {c : Char} (hc : c ≠ '/') (t : Text) : anchorOf (Anchor.text a ++ c :: t) = a := by
  cases a <;> simp [anchorOf, Anchor.text, hc]

theorem components_anchor (a : Anchor) (t : Text) : components (Anchor.text a ++ t) = components t := by
  cases a with
  | relative => rfl
  | root => exact components_slash t
  | doubleRoot => exact (components_slash ('/' :: t)).trans (components_slash t)

/-- **The text of a path is read as that path.** -/
theorem ofText_text {p : Path} (h : ∀ c ∈ p.parts, IsComponent c) : ofText p.text = p := by
  obtain ⟨a, ps⟩ := p
  by_cases hps : ps = []
  · subst hps
    cases a <;> rfl
  · obtain ⟨c, t, hjoin, hc⟩ := exists_join_eq_cons hps h
    have htext : text ⟨a, ps⟩ = Anchor.text a ++ Text.join ['/'] ps := by simp [text, hps]
    rw [htext, ofText_eq, components_anchor, components_join hps h, hjoin, anchorOf_text a hc]

theorem ofText_text_ofText (t : Text) : ofText (ofText t).text = ofText t :=
  ofText_text fun _ => isComponent_of_mem

/-! ## Padding -/

/-- A text written longer: with another slash behind one that is not among the slashes in front, with a dot as a
component of its own, or with a slash behind all components. -/
inductive Padded : Text → Text → Prop
  | slash {s : Text} (h : ∃ c ∈ s, c ≠ '/') (t : Text) : Padded (s ++ '/' :: t) (s ++ '/' :: '/' :: t)
  | dot {s t : Text} (h : (∃ c ∈ s, c ≠ '/') ∨ t.head? ≠ some '/') :
      Padded (s ++ '/' :: t) (s ++ '/' :: '.' :: '/' :: t)
  | dotInFront {t : Text} (h : t.head? ≠ some '/') : Padded t ('.' :: '/' :: t)
  | slashBehind {s : Text} (h : ∃ c ∈ s, c ≠ '/') : Padded s (s ++ ['/'])

theorem components_dot (t : Text) : components ('.' :: '/' :: t) = components t := components_append ['.'] t

theorem Padded.components_eq {s t : Text} (h : Padded s t) : components s = components t := by
  cases h with
  | slash h t => rw [components_append, components_append, components_slash]
  | dot h => rw [components_append, components_append, components_dot]
  | dotInFront h => rw [components_dot]
  | slashBehind h =>
    rw [components_append]
    exact (List.append_nil _).symm

/-- A dot between the slashes in front would make another anchor of them. -/
theorem Padded.anchorOf_eq {s t : Text} (h : Padded s t) : anchorOf s = anchorOf t := by
  cases h with
  | slash h t => rw [anchorOf_append h, anchorOf_append h]
  | slashBehind h => rw [anchorOf_append h]
  | dotInFront h =>
    rw [anchorOf_relative (by decide)]
    cases s with
    | nil => rfl
    | cons c s => exact anchorOf_relative (fun hc => h (congrArg some hc)) s
  | @dot s t h =>
    by_cases hs : ∃ c ∈ s, c ≠ '/'
    · rw [anchorOf_append hs, anchorOf_append hs]
    · have ht := h.resolve_left hs
      have hslash : ∀ c ∈ s, c = '/' := fun c hc => Decidable.not_not.1 fun hne => hs ⟨c, hc, hne⟩
      match s, hslash with
      | [], _ => cases t <;> simp_all [anchorOf]
      | [c], hslash =>
        obtain rfl := hslash c List.mem_cons_self
        cases t <;> simp_all [anchorOf]
      | c :: d :: s, hslash =>
        obtain rfl := hslash c List.mem_cons_self
        obtain rfl := hslash d (by simp)
        cases s <;> simp_all [anchorOf]

/-- **Padding leaves the path as it is**, whatever is added or taken away, and however often. -/
theorem ofText_eq_of_padded {s t : Text} (h : Relation.EqvGen Padded s t) : ofText s = ofText t := by
  induction h with
  | rel s t h => rw [ofText_eq, ofText_eq, h.anchorOf_eq, h.components_eq]
  | refl s => rfl
  | symm s t _ ih => exact ih.symm
  | trans s t u _ _ ihs iht => exact ihs.trans iht

/-! ## Stripping the root -/

/-- A path lies strictly inside a root, `rest` below it. -/
structure Inside (p root : Path) (rest : List Text) : Prop where
  anchor : root.anchor = p.anchor
  parts : p.parts = root.parts ++ rest
  proper : rest ≠ []

/-- A path seen from another one, which it continues unless it is absolute. -/
def join (base p : Path) : Path := if p.anchor = .relative then ⟨base.anchor, base.parts ++ p.parts⟩ else p

theorem partsAfter?_eq_some_iff : ∀ {qs ps rest : List Text}, partsAfter? qs ps = some rest ↔ ps = qs ++ rest
  | [], ps, rest => by simp [partsAfter?]
  | _ :: _, [], rest => by simp [partsAfter?]
  | q :: qs, p :: ps, rest => by
    have ih : partsAfter? qs ps = some rest ↔ ps = qs ++ rest := partsAfter?_eq_some_iff
    by_cases h : q = p
    · simp [partsAfter?, h, ih]
    · simp [partsAfter?, h, Ne.symm h]

theorem relativeTo?_eq_some_iff {p base q : Path} :
    p.relativeTo? base = some q ↔
      base.anchor = p.anchor ∧ ∃ rest, p.parts = base.parts ++ rest ∧ q = ⟨.relative, rest⟩ := by
  unfold relativeTo?
  by_cases h : base.anchor = p.anchor
  · rw [if_pos h, Option.map_eq_some_iff]
    simp only [partsAfter?_eq_some_iff, h, true_and, eq_comm (a := q)]
  · simp [h]

theorem Inside.ne {p root : Path} {rest : List Text} (h : Inside p root rest) : p ≠ root := by
  rintro rfl
  exact h.proper (List.self_eq_append_right.1 h.parts)

theorem text_relative {ps : List Text} (h : ps ≠ []) : text ⟨.relative, ps⟩ = Text.join ['/'] ps := by
  simp [text, h, Anchor.text]

theorem Inside.stripRoot_eq {p root : Path} {rest : List Text} (h : Inside p root rest) :
    p.stripRoot root = Text.join ['/'] rest := by
  have hrel : p.relativeTo? root = some ⟨.relative, rest⟩ := relativeTo?_eq_some_iff.2 ⟨h.anchor, rest, h.parts, rfl⟩
  rw [stripRoot, if_neg h.ne, hrel, Option.getD_some, text_relative h.proper]

theorem stripRoot_eq_of_not_inside {p root : Path} (h : ∀ rest, ¬ Inside p root rest) : p.stripRoot root = p.text := by
  by_cases heq : p = root
  · rw [stripRoot, if_pos heq]
  · have hnone : p.relativeTo? root = none := by
      refine Option.eq_none_iff_forall_ne_some.2 fun q hq => ?_
      obtain ⟨hanchor, rest, hparts, -⟩ := relativeTo?_eq_some_iff.1 hq
      refine h rest ⟨hanchor, hparts, ?_⟩
      rintro rfl
      obtain ⟨a, ps⟩ := p
      obtain ⟨b, qs⟩ := root
      simp_all
    rw [stripRoot, if_neg heq, hnone, Option.getD_none]

/-- **A path loses exactly the root that it lies strictly inside of**: what is left is a relative path of the remaining
components, and behind the root it is the path again.  Any other path keeps its own text, which spells it.  Padding in
either text makes no difference. -/
theorem stripRoot_exact (s t : Text) :
    let p := ofText s
    let root := ofText t
    (∀ rest, Inside p root rest → p.stripRoot root = Text.join ['/'] rest ∧
      ofText (p.stripRoot root) = ⟨.relative, rest⟩ ∧ root.join (ofText (p.stripRoot root)) = p) ∧
    ((∀ rest, ¬ Inside p root rest) → p.stripRoot root = p.text) ∧ ofText p.text = p ∧
    ∀ s' t', Relation.EqvGen Padded s s' → Relation.EqvGen Padded t t' →
      (ofText s').stripRoot (ofText t') = p.stripRoot root := by
  intro p root
  refine ⟨fun rest h => ?_, stripRoot_eq_of_not_inside, ofText_text_ofText s, fun s' t' hs ht => ?_⟩
  · have hrest : ∀ c ∈ rest, IsComponent c := fun c hc => by
      have hmem : c ∈ components s := by
        rw [show components s = root.parts ++ rest from h.parts]
        exact List.mem_append_right _ hc
      exact isComponent_of_mem hmem
    have hread : ofText (p.stripRoot root) = ⟨.relative, rest⟩ := by
      rw [h.stripRoot_eq, ← text_relative h.proper]
      exact ofText_text hrest
    refine ⟨h.stripRoot_eq, hread, ?_⟩
    rw [hread, join, if_pos rfl, h.anchor, ← h.parts]
  · rw [← ofText_eq_of_padded hs, ← ofText_eq_of_padded ht]

theorem stripRoot_exact_under_two_slashes :
    let s := "//w/./lib//../zlib".toList
    let t := "//w/".toList
    let s' := "//w/lib//../zlib".toList
    Inside (ofText s) (ofText t) ["lib".toList, up, "zlib".toList] ∧
      (ofText s).stripRoot (ofText t) = "lib/../zlib".toList ∧
      (ofText t).join (ofText ((ofText s).stripRoot (ofText t))) = ofText s ∧
      Relation.EqvGen Padded s s' ∧ (ofText s').stripRoot (ofText t) = (ofText s).stripRoot (ofText t) := by
  intro s t s'
  obtain ⟨hinside, -, -, hpadded⟩ := stripRoot_exact s t
  have h : Inside (ofText s) (ofText t) ["lib".toList, up, "zlib".toList] :=
    ⟨by decide +kernel, by decide +kernel, by decide⟩
  obtain ⟨htext, -, hjoin⟩ := hinside _ h
  have hs : Padded s' s := .dot (s := "//w".toList) (t := "lib//../zlib".toList) (.inl ⟨'w', by decide, by decide⟩)
  have hs' : Relation.EqvGen Padded s s' := .symm _ _ (.rel _ _ hs)
  exact ⟨h, htext.trans (by decide +kernel), hjoin, hs', hpadded s' t hs' (.refl t)⟩

end Path
end Licensing
