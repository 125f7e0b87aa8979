import Licensing.Proofs.Text.Utf8
/-!
# The ends of lines

The lines of a text as a relation between the two (`ruled_iff`), and texts whose lines all end in the same way.  Writing
every end in one way changes no line of a text, also if it is done among the bytes (`lines_decodeLossy_withEnds`).
-/
namespace Licensing

/-- How a line may end. -/
inductive LineEnd
  | lf
  | cr
  | crlf
  deriving DecidableEq, Repr

section

variable {α : Type} [DecidableEq α]

def LineEnd.write (lf cr : α) : LineEnd → List α
  | .lf => [lf]
  | .cr => [cr]
  | .crlf => [cr, lf]

/-- Every line of `xs` with the same end.  A carriage return in front of a line feed is no end of its own. -/
def withEnds (lf cr : α) (e : LineEnd) : List α → List α
  | [] => []
  | x :: xs =>
    if x = lf ∨ x = cr ∧ xs.head? ≠ some lf then e.write lf cr ++ withEnds lf cr e xs
    else if x = cr then withEnds lf cr e xs
    else x :: withEnds lf cr e xs

variable {lf cr : α} {e : LineEnd}

theorem withEnds_of_ends {x : α} {xs : List α} (h : x = lf ∨ x = cr ∧ xs.head? ≠ some lf) :
    withEnds lf cr e (x :: xs) = e.write lf cr ++ withEnds lf cr e xs := by
  rw [withEnds, if_pos h]

theorem withEnds_cr_of_head? (hne : cr ≠ lf) {xs : List α} (h : xs.head? = some lf) :
    withEnds lf cr e (cr :: xs) = withEnds lf cr e xs := by
  rw [withEnds, if_neg (by simp [hne, h]), if_pos rfl]

theorem withEnds_cons {x : α} (hlf : x ≠ lf) (hcr : x ≠ cr) (xs : List α) :
    withEnds lf cr e (x :: xs) = x :: withEnds lf cr e xs := by
  rw [withEnds, if_neg (by simp [hlf, hcr]), if_neg hcr]

/-- What ends no line stays as it is. -/
theorem withEnds_append (xs : List α) : ∀ {q : List α}, (∀ x ∈ q, x ≠ lf ∧ x ≠ cr) →
    withEnds lf cr e (q ++ xs) = q ++ withEnds lf cr e xs
  | [], _ => rfl
  | x :: q, h => by
    obtain ⟨hx, hq⟩ := List.forall_mem_cons.1 h
    rw [List.cons_append, withEnds_cons hx.1 hx.2, withEnds_append xs hq, List.cons_append]

theorem lf_not_mem_withEnds_cr (hne : cr ≠ lf) (xs : List α) : lf ∉ withEnds lf cr .cr xs := by
  induction xs with
  | nil => simp [withEnds]
  | cons x xs ih =>
    unfold withEnds
    split
    · simp [LineEnd.write, Ne.symm hne, ih]
    split
    · exact ih
    · rename_i hends hcr
      have hlf : lf ≠ x := fun h => hends (.inl h.symm)
      simp [hlf, ih]

end

namespace Text

/-! ## Lines as a relation -/

/-- The lines of a text.  What stands behind the last end is a line unless it is empty. -/
inductive Ruled : Text → List Text → Prop
  | nil : Ruled [] []
  | last {l : Text} (hl : ∀ c ∈ l, Utf8.IsPlain c) (hne : l ≠ []) : Ruled l [l]
  | lf {l t : Text} {ls : List Text} (hl : ∀ c ∈ l, Utf8.IsPlain c) (ht : Ruled t ls) : Ruled (l ++ '\n' :: t) (l :: ls)
  | crlf {l t : Text} {ls : List Text} (hl : ∀ c ∈ l, Utf8.IsPlain c) (ht : Ruled t ls) :
      Ruled (l ++ '\r' :: '\n' :: t) (l :: ls)
  | cr {l t : Text} {ls : List Text} (hl : ∀ c ∈ l, Utf8.IsPlain c) (hne : t.head? ≠ some '\n') (ht : Ruled t ls) :
      Ruled (l ++ '\r' :: t) (l :: ls)

theorem lines_of_plain : ∀ {l : Text}, (∀ c ∈ l, Utf8.IsPlain c) → l ≠ [] → lines l = [l]
  | [], _, hne => absurd rfl hne
  | [c], hl, _ => by
    have hc := hl c List.mem_cons_self
    rw [lines_cons hc.1 hc.2]
    rfl
  | c :: d :: l, hl, _ => by
    obtain ⟨hc, hl⟩ := List.forall_mem_cons.1 hl
    rw [lines_cons hc.1 hc.2, lines_of_plain hl (List.cons_ne_nil d l)]
    rfl

theorem Ruled.lines_eq {t : Text} {ls : List Text} (h : Ruled t ls) : lines t = ls := by
  induction h with
  | nil => rfl
  | last hl hne => exact lines_of_plain hl hne
  | lf hl ht ih => exact lines_append (by rw [lines_lf, ih]) hl
  | crlf hl ht ih => exact lines_append (by rw [lines_crlf, ih]) hl
  | cr hl hne ht ih => exact lines_append (by rw [lines_cr hne, ih]) hl

/-- A character in front of a text stands in its first line. -/
theorem Ruled.push {t : Text} {ls : List Text} {c : Char} (hc : Utf8.IsPlain c) (h : Ruled t ls) :
    Ruled (c :: t) (pushFirst c ls) := by
  cases h with
  | nil => exact .last (by simpa using hc) (List.cons_ne_nil c [])
  | last hl hne => exact .last (List.forall_mem_cons.2 ⟨hc, hl⟩) (List.cons_ne_nil c _)
  | lf hl ht => exact .lf (l := c :: _) (List.forall_mem_cons.2 ⟨hc, hl⟩) ht
  | crlf hl ht => exact .crlf (l := c :: _) (List.forall_mem_cons.2 ⟨hc, hl⟩) ht
  | cr hl hne ht => exact .cr (l := c :: _) (List.forall_mem_cons.2 ⟨hc, hl⟩) hne ht

theorem ruled_lines : ∀ t : Text, Ruled t (lines t)
  | [] => .nil
  | c :: t => by
    have hnil : ∀ c ∈ ([] : Text), Utf8.IsPlain c := List.forall_mem_nil _
    by_cases hlf : c = '\n'
    · rw [hlf, lines_lf]
      exact .lf hnil (ruled_lines t)
    by_cases hcr : c = '\r'
    · by_cases hh : t.head? = some '\n'
      · cases t with
        | nil => cases hh
        | cons d t =>
          obtain rfl := Option.some.inj hh
          rw [hcr, lines_crlf]
          exact .crlf hnil (ruled_lines t)
      · rw [hcr, lines_cr hh]
        exact .cr hnil hh (ruled_lines t)
    · rw [lines_cons hlf hcr]
      exact (ruled_lines t).push ⟨hlf, hcr⟩

/-- **The lines of a text are the only ones that it is ruled in.** -/
theorem ruled_iff {t : Text} {ls : List Text} : Ruled t ls ↔ lines t = ls :=
  ⟨Ruled.lines_eq, fun h => h ▸ ruled_lines t⟩

/-! ## One end for all lines -/

theorem lines_write {e : LineEnd} {t : Text} (h : e = .cr → t.head? ≠ some '\n') :
    lines (e.write '\n' '\r' ++ t) = [] :: lines t := by
  cases e with
  | lf => exact lines_lf t
  | cr => exact lines_cr (h rfl)
  | crlf => exact lines_crlf t

/-- **It makes no difference how lines end.** -/
theorem lines_withEnds (e : LineEnd) : ∀ t : Text, lines (withEnds '\n' '\r' e t) = lines t
  | [] => rfl
  | c :: t => by
    have ih := lines_withEnds e t
    -- a line feed behind carriage returns alone would join the last of them
    have hhead : e = .cr → (withEnds '\n' '\r' e t).head? ≠ some '\n' := by
      rintro rfl hh
      exact lf_not_mem_withEnds_cr (by decide) t (List.mem_of_mem_head? hh)
    by_cases hlf : c = '\n'
    · rw [withEnds_of_ends (.inl hlf), lines_write hhead, ih, hlf, lines_lf]
    by_cases hcr : c = '\r'
    · subst hcr
      by_cases hh : t.head? = some '\n'
      · obtain ⟨t, rfl⟩ := List.head?_eq_some_iff.1 hh
        rw [withEnds_cr_of_head? (by decide) hh, ih, lines_crlf, lines_lf]
      · rw [withEnds_of_ends (.inr ⟨rfl, hh⟩), lines_write hhead, ih, lines_cr hh]
    · rw [withEnds_cons hlf hcr, lines_cons hlf hcr, lines_cons hlf hcr, ih]

end Text

namespace Utf8

theorem shownFrom_write {s : State} (hs : s.Wide) (e : LineEnd) (bs : Bytes) :
    shownFrom s (e.write 10 13 ++ bs) = s.remains ++ (e.write '\n' '\r' ++ shownFrom .between bs) := by
  cases e with
  | lf => exact shownFrom_ascii hs (by decide) bs
  | cr => exact shownFrom_ascii hs (by decide) bs
  | crlf =>
    have hcr := shownFrom_ascii hs (b := 13) (by decide) (10 :: bs)
    rw [shownFrom_ascii State.wide_between (by decide)] at hcr
    exact hcr

/-- By induction on the bytes, from any state in which a character may have been begun: an end of a line breaks it off,
whichever end it is. -/
theorem shownFrom_withEnds (e : LineEnd) (bs : Bytes) : ∀ {s : State}, s.Wide →
    shownFrom s (withEnds 10 13 e bs) = withEnds '\n' '\r' e (shownFrom s bs) := by
  induction bs with
  | nil =>
    intro s _
    have h := withEnds_append (e := e) [] (isPlain_remains s)
    rw [List.append_nil] at h
    rw [withEnds, shownFrom_nil, h, withEnds, List.append_nil]
  | cons b bs ih =>
    intro s hs
    by_cases hb : b.toNat < 0x80
    · rw [shownFrom_ascii hs hb, withEnds_append _ (isPlain_remains s)]
      by_cases hends : b = 10 ∨ b = 13 ∧ bs.head? ≠ some 10
      · rw [withEnds_of_ends hends, withEnds_of_ends ((ends_ascii_iff hb bs).1 hends), shownFrom_write hs,
          ih State.wide_between]
      have hlf : b ≠ 10 := fun h => hends (.inl h)
      by_cases hcr : b = 13
      · subst hcr
        have hh : bs.head? = some 10 := Decidable.not_not.1 fun h => hends (.inr ⟨rfl, h⟩)
        obtain ⟨bs, rfl⟩ := List.head?_eq_some_iff.1 hh
        rw [withEnds_cr_of_head? (by decide) rfl, ih hs, shownFrom_ascii hs (by decide),
          withEnds_append _ (isPlain_remains s), shownFrom_ascii State.wide_between (by decide)]
        exact congrArg _ (withEnds_cr_of_head? (by decide) rfl).symm
      · have hplain : ¬ (Char.ofNat b.toNat = '\n' ∨ Char.ofNat b.toNat = '\r') := by
          rintro (h | h)
          · exact hlf (eq_of_ofNat_eq hb (by decide) h)
          · exact hcr (eq_of_ofNat_eq hb (by decide) h)
        rw [not_or] at hplain
        rw [withEnds_cons hlf hcr, withEnds_cons hplain.1 hplain.2, shownFrom_ascii hs hb, ih State.wide_between]
    · obtain ⟨hplain, hwide, -⟩ := quiet_step hs (Nat.le_of_not_lt hb)
      have hlf : b ≠ 10 := fun h => hb (by rw [h]; decide)
      have hcr : b ≠ 13 := fun h => hb (by rw [h]; decide)
      rw [withEnds_cons hlf hcr, shownFrom_cons, shownFrom_cons, withEnds_append _ hplain, ih hwide]

/-- **It makes no difference how lines end among the bytes**, also behind a character that is broken off. -/
theorem lines_decodeLossy_withEnds (e : LineEnd) (bs : Bytes) :
    Text.lines (decodeLossy (withEnds 10 13 e bs)) = Text.lines (decodeLossy bs) := by
  have h : decodeLossy (withEnds 10 13 e bs) = withEnds '\n' '\r' e (decodeLossy bs) :=
    shownFrom_withEnds e bs State.wide_between
  rw [h, Text.lines_withEnds]

end Utf8
end Licensing
