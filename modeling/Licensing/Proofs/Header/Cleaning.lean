import Licensing.Header
import Licensing.Proofs.Text.Cuts
/-!
# Cleaning a value

A value loses the longest run of white space and ends of comments behind it.  What is left is determined by that alone
(`dropTrailer_eq_iff`), and it is where a loop comes to rest that takes away one end of a comment after the other
(`settles_iff`).
-/
namespace Licensing

namespace Text

theorem exists_trimEnd (t : Text) : ∃ s, t = trimEnd t ++ s ∧ ∀ c ∈ s, isBlank c = true := by
  induction t with
  | nil => exact ⟨[], rfl, List.forall_mem_nil _⟩
  | cons c t ih =>
    obtain ⟨s, ht, hs⟩ := ih
    cases hr : trimEnd t with
    | cons d r => exact ⟨s, by simpa [trimEnd, hr] using ht, hs⟩
    | nil =>
      have hts : t = s := by simpa [hr] using ht
      by_cases hc : isBlank c = true
      · exact ⟨c :: t, by simp [trimEnd, hr, hc], List.forall_mem_cons.2 ⟨hc, hts ▸ hs⟩⟩
      · exact ⟨t, by simp [trimEnd, hr, hc], hts ▸ hs⟩

/-- No white space stands at the end of the text. -/
def EndsSolid (t : Text) : Prop := ∀ s c, t = s ++ [c] → isBlank c = false

theorem endsSolid_trimEnd (t : Text) : EndsSolid (trimEnd t) := by
  induction t with
  | nil => simp [EndsSolid, trimEnd]
  | cons c t ih =>
    cases hr : trimEnd t with
    | nil =>
      by_cases hc : isBlank c = true
      · simp [EndsSolid, trimEnd, hr, hc]
      · intro s d h
        obtain ⟨-, rfl⟩ : [] = s ∧ c = d := List.append_singleton_inj.1 (by simpa [trimEnd, hr, hc] using h)
        simpa using hc
    | cons d r =>
      rw [hr] at ih
      intro s e h
      have hcons : c :: d :: r = s ++ [e] := by simpa [trimEnd, hr] using h
      cases s with
      | nil => cases hcons
      | cons c' s => exact ih s e (List.cons.inj hcons).2

end Text

namespace Header

/-! ## Trailers -/

/-- Nothing but white space and the ends of comments. -/
inductive Trailer : Text → Prop
  | nil : Trailer []
  | blank {c : Char} {t : Text} (hc : Text.isBlank c = true) (ht : Trailer t) : Trailer (c :: t)
  | star {t : Text} (ht : Trailer t) : Trailer ('*' :: '/' :: t)
  | arrow {t : Text} (ht : Trailer t) : Trailer ('-' :: '-' :: '>' :: t)

/-- The text ends in no white space and in no end of a comment. -/
structure Bare (t : Text) : Prop where
  solid : Text.EndsSolid t
  star : ¬ ['*', '/'] <:+ t
  arrow : ¬ ['-', '-', '>'] <:+ t

/-- What is left of a text without its trailer. -/
structure Cleaned (t r : Text) : Prop where
  trailer : ∃ s, t = r ++ s ∧ Trailer s
  bare : Bare r

theorem trailer_of_blank {s : Text} (h : ∀ c ∈ s, Text.isBlank c = true) : Trailer s := by
  induction s with
  | nil => exact .nil
  | cons c s ih =>
    obtain ⟨hc, hs⟩ := List.forall_mem_cons.1 h
    exact .blank hc (ih hs)

theorem Trailer.append {s t : Text} (hs : Trailer s) (ht : Trailer t) : Trailer (s ++ t) := by
  induction hs with
  | nil => exact ht
  | blank hc _ ih => exact .blank hc ih
  | star _ ih => exact .star ih
  | arrow _ ih => exact .arrow ih

theorem Trailer.head {c : Char} {t : Text} (h : Trailer (c :: t)) : Text.isBlank c = true ∨ c = '*' ∨ c = '-' := by
  cases h with
  | blank hc _ => exact .inl hc
  | star _ => exact .inr (.inl rfl)
  | arrow _ => exact .inr (.inr rfl)

theorem not_trailer_cons {c : Char} (hb : Text.isBlank c = false) (hs : c ≠ '*') (ha : c ≠ '-') (t : Text) :
    ¬ Trailer (c :: t) := by
  intro h
  rcases h.head with h | h | h
  · exact Bool.false_ne_true (hb.symm.trans h)
  · exact hs h
  · exact ha h

theorem Bare.of_append {s t : Text} (h : Bare (s ++ t)) : Bare t := by
  have hsuf : t <:+ s ++ t := List.suffix_append s t
  have hsolid : Text.EndsSolid t := fun u c hu => h.solid (s ++ u) c (by rw [hu, List.append_assoc])
  exact ⟨hsolid, fun hstar => h.star (hstar.trans hsuf), fun harrow => h.arrow (harrow.trans hsuf)⟩

/-- **A trailer falls apart nowhere but between its parts**: where the rest is a trailer again, what stands before it
ends in white space or in an end of a comment. -/
theorem Trailer.eq_nil_of_bare {t : Text} (h : Trailer t) :
    ∀ {w s : Text}, t = w ++ s → Trailer s → Bare w → w = [] := by
  induction h with
  | nil =>
    intro w s hw _ _
    exact (List.append_eq_nil_iff.1 hw.symm).1
  | @blank c t hc _ ih =>
    intro w s hw hs hbare
    cases w with
    | nil => rfl
    | cons d w =>
      obtain ⟨rfl, rfl⟩ := List.cons.inj hw
      have hw : w = [] := ih rfl hs (hbare.of_append (s := [c]))
      subst hw
      exact absurd (hbare.solid [] c rfl) (by simp [hc])
  | @star t _ ih =>
    intro w s hw hs hbare
    match w with
    | [] => rfl
    | [c] =>
      obtain ⟨rfl, rfl⟩ := List.cons.inj hw
      exact absurd hs (not_trailer_cons (by decide) (by decide) (by decide) t)
    | c :: d :: w =>
      simp only [List.cons_append, List.cons.injEq] at hw
      obtain ⟨rfl, rfl, rfl⟩ := hw
      have hw : w = [] := ih rfl hs (hbare.of_append (s := ['*', '/']))
      subst hw
      exact absurd (List.suffix_refl _) hbare.star
  | @arrow t _ ih =>
    intro w s hw hs hbare
    match w with
    | [] => rfl
    | [c] =>
      -- a dash begins a trailer only in front of another dash
      obtain ⟨rfl, rfl⟩ := List.cons.inj hw
      rcases hs with _ | ⟨hc, _⟩
      exact absurd hc (by decide)
    | [c, d] =>
      simp only [List.cons_append, List.nil_append, List.cons.injEq] at hw
      obtain ⟨rfl, rfl, rfl⟩ := hw
      exact absurd hs (not_trailer_cons (by decide) (by decide) (by decide) t)
    | c :: d :: e :: w =>
      simp only [List.cons_append, List.cons.injEq] at hw
      obtain ⟨rfl, rfl, rfl, rfl⟩ := hw
      have hw : w = [] := ih rfl hs (hbare.of_append (s := ['-', '-', '>']))
      subst hw
      exact absurd (List.suffix_refl _) hbare.arrow

/-! ## What is left without a trailer -/

theorem isTrailer_iff : ∀ {t : Text}, isTrailer t = true ↔ Trailer t := by
  intro t
  constructor
  · fun_induction isTrailer t with
    | case1 => exact fun _ => .nil
    | case2 t ih => exact fun h => .star (ih h)
    | case3 t ih => exact fun h => .arrow (ih h)
    | case4 c t _ _ ih =>
      intro h
      obtain ⟨hc, ht⟩ := Bool.and_eq_true_iff.1 h
      exact .blank hc (ih ht)
  · intro h
    induction h with
    | nil => rfl
    | @blank c t hc _ ih =>
      have hstar : c ≠ '*' := by rintro rfl; exact absurd hc (by decide)
      have harrow : c ≠ '-' := by rintro rfl; exact absurd hc (by decide)
      simp [isTrailer, hstar, harrow, hc, ih]
    | star _ ih => simpa [isTrailer] using ih
    | arrow _ ih => simpa [isTrailer] using ih

theorem exists_dropTrailer (t : Text) : ∃ s, t = dropTrailer t ++ s ∧ Trailer s := by
  induction t with
  | nil => exact ⟨[], rfl, .nil⟩
  | cons c t ih =>
    by_cases h : isTrailer (c :: t) = true
    · exact ⟨c :: t, by simp [dropTrailer, h], isTrailer_iff.1 h⟩
    · obtain ⟨s, ht, hs⟩ := ih
      exact ⟨s, by simpa [dropTrailer, h] using ht, hs⟩

/-- Every trailer behind a text is a part of the one that is dropped. -/
theorem dropTrailer_isPrefix {s : Text} (hs : Trailer s) : ∀ r : Text, dropTrailer (r ++ s) <+: r
  | [] => by
    cases s with
    | nil => exact List.prefix_refl []
    | cons c s =>
      have h := isTrailer_iff.2 hs
      simp [dropTrailer, h]
  | c :: r => by
    rw [List.cons_append, dropTrailer]
    split
    · exact List.nil_prefix
    · exact List.cons_prefix_cons.2 ⟨rfl, dropTrailer_isPrefix hs r⟩

theorem bare_dropTrailer (t : Text) : Bare (dropTrailer t) := by
  obtain ⟨s, ht, hs⟩ := exists_dropTrailer t
  have hlast : ∀ r w, dropTrailer t = r ++ w → Trailer w → w = [] := by
    intro r w hr hw
    have hprefix := dropTrailer_isPrefix (hw.append hs) r
    rw [← List.append_assoc, ← hr, ← ht, hr] at hprefix
    have hlength := hprefix.length_le
    rw [List.length_append] at hlength
    exact List.eq_nil_of_length_eq_zero (by omega)
  refine ⟨fun r c hr => ?_, fun ⟨r, hr⟩ => ?_, fun ⟨r, hr⟩ => ?_⟩
  · by_cases hc : Text.isBlank c = true
    · cases hlast r [c] hr (.blank hc .nil)
    · simpa using hc
  · cases hlast r _ hr.symm (.star .nil)
  · cases hlast r _ hr.symm (.arrow .nil)

/-- **What is left without the trailer is determined by the text**: a beginning that ends in no white space and in no
end of a comment, where nothing else follows. -/
theorem dropTrailer_eq_iff {t r : Text} : dropTrailer t = r ↔ Cleaned t r := by
  constructor
  · rintro rfl
    exact ⟨exists_dropTrailer t, bare_dropTrailer t⟩
  · rintro ⟨⟨s, rfl, hs⟩, hbare⟩
    obtain ⟨w, hw⟩ := dropTrailer_isPrefix hs r
    obtain ⟨u, hu, htrailer⟩ := exists_dropTrailer (r ++ s)
    generalize dropTrailer (r ++ s) = d at hw hu
    subst hw
    have hws : u = w ++ s := by
      rw [List.append_assoc] at hu
      exact (List.append_cancel_left hu).symm
    have hnil : w = [] := htrailer.eq_nil_of_bare hws hs hbare.of_append
    rw [hnil, List.append_nil]

theorem clean_eq_iff {t r : Text} : clean t = r ↔ Cleaned (Text.trimStart t) r := dropTrailer_eq_iff

theorem dropTrailer_of_bare {t : Text} (h : Bare t) : dropTrailer t = t :=
  dropTrailer_eq_iff.2 ⟨⟨[], (List.append_nil t).symm, .nil⟩, h⟩

theorem dropTrailer_append {s : Text} (hs : Trailer s) (t : Text) : dropTrailer (t ++ s) = dropTrailer t := by
  obtain ⟨u, hu, htrailer⟩ := exists_dropTrailer t
  refine dropTrailer_eq_iff.2 ⟨⟨u ++ s, ?_, htrailer.append hs⟩, bare_dropTrailer t⟩
  rw [← List.append_assoc, ← hu]

theorem trimStart_of_head {c : Char} {t : Text} (h : Text.isBlank c = false) : Text.trimStart (c :: t) = c :: t := by
  simp [Text.trimStart, h]

/-- **Cleaning twice is cleaning once.** -/
theorem clean_clean (t : Text) : clean (clean t) = clean t := by
  have hstart : Text.trimStart (clean t) = clean t := by
    obtain ⟨s, ht, -⟩ := exists_dropTrailer (Text.trimStart t)
    cases hc : clean t with
    | nil => rfl
    | cons c r =>
      have hhead : (Text.trimStart t).head? = some c := by
        rw [ht, show dropTrailer (Text.trimStart t) = c :: r from hc]
        rfl
      have hsolid := List.head?_dropWhile_not Text.isBlank t
      rw [show (List.dropWhile Text.isBlank t).head? = some c from hhead] at hsolid
      exact trimStart_of_head hsolid
  rw [clean_eq_iff, hstart]
  exact ⟨⟨[], (List.append_nil _).symm, .nil⟩, bare_dropTrailer _⟩

/-! ## Taking the ends of comments away one by one -/

/-- Takes away one end of a comment, and the white space before it. -/
def cutEnd (w t : Text) : Text := ((Text.before? w t).map Text.trimEnd).getD t

/-- Each kind of end is looked for once. -/
def pass (t : Text) : Text := cutEnd ['-', '-', '>'] (cutEnd ['*', '/'] t)

/-- A text comes to rest as soon as a pass changes nothing. -/
inductive Settles : Text → Text → Prop
  | rest {t : Text} (h : pass t = t) : Settles t t
  | again {t r : Text} (h : pass t ≠ t) (hr : Settles (pass t) r) : Settles t r

theorem cutEnd_of_suffix {w t : Text} (h : w <:+ t) : ∃ r, t = r ++ w ∧ cutEnd w t = Text.trimEnd r := by
  obtain ⟨r, rfl⟩ := h
  have hr : Text.before? w (r ++ w) = some r := Text.before?_eq_some_iff.2 rfl
  exact ⟨r, rfl, by rw [cutEnd, hr]; rfl⟩

theorem cutEnd_of_not_suffix {w t : Text} (h : ¬ w <:+ t) : cutEnd w t = t := by
  cases hr : Text.before? w t with
  | none => rw [cutEnd, hr]; rfl
  | some r => exact absurd ⟨r, (Text.before?_eq_some_iff.1 hr).symm⟩ h

theorem exists_cutEnd {w : Text} (hw : Trailer w) (t : Text) : ∃ s, t = cutEnd w t ++ s ∧ Trailer s := by
  by_cases h : w <:+ t
  · obtain ⟨r, ht, hcut⟩ := cutEnd_of_suffix h
    obtain ⟨s, hr, hs⟩ := Text.exists_trimEnd r
    refine ⟨s ++ w, ?_, (trailer_of_blank hs).append hw⟩
    rw [hcut, ← List.append_assoc, ← hr, ← ht]
  · exact ⟨[], by rw [cutEnd_of_not_suffix h, List.append_nil], .nil⟩

theorem endsSolid_cutEnd {t : Text} (h : Text.EndsSolid t) (w : Text) : Text.EndsSolid (cutEnd w t) := by
  by_cases hw : w <:+ t
  · obtain ⟨r, -, hcut⟩ := cutEnd_of_suffix hw
    rw [hcut]
    exact Text.endsSolid_trimEnd r
  · rwa [cutEnd_of_not_suffix hw]

theorem length_cutEnd_lt {w t : Text} (hw : w ≠ []) (h : w <:+ t) : (cutEnd w t).length < t.length := by
  obtain ⟨r, ht, hcut⟩ := cutEnd_of_suffix h
  obtain ⟨s, hr, -⟩ := Text.exists_trimEnd r
  have hr := congrArg List.length hr
  have ht := congrArg List.length ht
  have hw := List.length_pos_iff.2 hw
  rw [List.length_append] at hr ht
  rw [hcut]
  omega

theorem exists_pass (t : Text) : ∃ s, t = pass t ++ s ∧ Trailer s := by
  obtain ⟨s, ht, hs⟩ := exists_cutEnd (.star .nil) t
  obtain ⟨u, hu, htrailer⟩ := exists_cutEnd (.arrow .nil) (cutEnd ['*', '/'] t)
  refine ⟨u ++ s, ?_, htrailer.append hs⟩
  rw [pass, ← List.append_assoc, ← hu, ← ht]

theorem length_cutEnd_le {w : Text} (hw : Trailer w) (t : Text) : (cutEnd w t).length ≤ t.length := by
  obtain ⟨s, ht, -⟩ := exists_cutEnd hw t
  have ht := congrArg List.length ht
  rw [List.length_append] at ht
  omega

/-- **A pass that changes a text makes it shorter.** -/
theorem length_pass_lt {t : Text} (h : pass t ≠ t) : (pass t).length < t.length := by
  obtain ⟨s, ht, -⟩ := exists_pass t
  have hs : s ≠ [] := by
    rintro rfl
    exact h (by rwa [List.append_nil, eq_comm] at ht)
  have hlength := congrArg List.length ht
  have hpos := List.length_pos_iff.2 hs
  rw [List.length_append] at hlength
  omega

/-- A pass changes nothing only where no end of a comment is left. -/
theorem bare_of_pass_eq {t : Text} (hsolid : Text.EndsSolid t) (h : pass t = t) : Bare t := by
  have hle : (pass t).length ≤ (cutEnd ['*', '/'] t).length := length_cutEnd_le (.arrow .nil) _
  have hstar : ¬ ['*', '/'] <:+ t := by
    intro hsuf
    have hlt := length_cutEnd_lt (List.cons_ne_nil _ _) hsuf
    rw [h] at hle
    omega
  refine ⟨hsolid, hstar, fun hsuf => ?_⟩
  have hlt := length_cutEnd_lt (List.cons_ne_nil _ _) hsuf
  rw [pass, cutEnd_of_not_suffix hstar] at h
  rw [h] at hlt
  omega

theorem dropTrailer_pass (t : Text) : dropTrailer (pass t) = dropTrailer t := by
  obtain ⟨s, ht, hs⟩ := exists_pass t
  conv => rhs; rw [ht]
  exact (dropTrailer_append hs _).symm

/-- By induction on the length: a pass either changes nothing or leaves a shorter text with the same beginning. -/
theorem settles_dropTrailer {t : Text} (hsolid : Text.EndsSolid t) : Settles t (dropTrailer t) := by
  induction hn : t.length using Nat.strongRecOn generalizing t with
  | ind n ih =>
    by_cases h : pass t = t
    · rw [dropTrailer_of_bare (bare_of_pass_eq hsolid h)]
      exact .rest h
    · have hpass : Text.EndsSolid (pass t) := endsSolid_cutEnd (endsSolid_cutEnd hsolid _) _
      refine .again h ?_
      rw [← dropTrailer_pass]
      exact ih _ (hn ▸ length_pass_lt h) hpass rfl

theorem Settles.unique {t r r' : Text} (h : Settles t r) (h' : Settles t r') : r = r' := by
  induction h with
  | rest hpass =>
    cases h' with
    | rest _ => rfl
    | again hne _ => exact absurd hpass hne
  | again hne _ ih =>
    cases h' with
    | rest hpass => exact absurd hpass hne
    | again _ hr => exact ih hr

theorem dropTrailer_trimEnd (t : Text) : dropTrailer (Text.trimEnd t) = dropTrailer t := by
  obtain ⟨s, ht, hs⟩ := Text.exists_trimEnd t
  conv => rhs; rw [ht]
  exact (dropTrailer_append (trailer_of_blank hs) _).symm

/-- **Taking the ends of comments away one by one comes to an end**, and what is left then is the cleaned text. -/
theorem settles_iff {t r : Text} : Settles (Text.trim t) r ↔ clean t = r := by
  have h : Settles (Text.trim t) (clean t) := by
    rw [clean, ← dropTrailer_trimEnd]
    exact settles_dropTrailer (Text.endsSolid_trimEnd _)
  constructor
  · exact fun hr => h.unique hr
  · rintro rfl
    exact h

end Header
end Licensing
