import Licensing.Proofs.Json.Scalars
import Licensing.Proofs.Text.Cuts
/-!
# Where a number or a word ends

Nothing but plain characters has a part in a number or a word.  So what is read of a text is read of the plain
characters in front, and what stands behind those stays behind (`gives_scalar`), unless the number has more digits than
are allowed.
-/
namespace Licensing
namespace Json

open Dialect (isPlain)

/-- There is too much of something. -/
def Fault.IsLimit (f : Fault) : Prop := f = .tooDeep ∨ ∃ limit digits, f = .tooManyDigits limit digits

section Gives

variable {κ α β : Type}

/-- The reading gives this, or it meets a limit. -/
def Gives (x : Except (Failure κ) α) (a : α) : Prop := x = .ok a ∨ ∃ f t, x = .error (f, t) ∧ f.IsLimit

theorem gives_ok (a : α) : Gives (.ok a : Except (Failure κ) α) a := .inl rfl

theorem Gives.bind {x : Except (Failure κ) α} {g : α → Except (Failure κ) β} {a : α} {b : β} (h : Gives x a)
    (hg : Gives (g a) b) : Gives (x >>= g) b := by
  obtain rfl | ⟨f, t, rfl, hf⟩ := h
  · exact hg
  · exact .inr ⟨f, t, rfl, hf⟩

theorem Gives.map {x : Except (Failure κ) α} {a : α} (h : Gives x a) (g : α → β) : Gives (x.map g) (g a) := by
  obtain rfl | ⟨f, t, rfl, hf⟩ := h
  · exact .inl rfl
  · exact .inr ⟨f, t, rfl, hf⟩

end Gives

/-! ## Numbers and words -/

/-- No number or word goes on in the text. -/
def EndsPlain (t : Text) : Prop := ∀ c ∈ t.head?, isPlain c = false

/-- What is read of a text and what is left of it, with `b` behind that. -/
def followedBy {α : Type} (b : Text) (p : α × Text) : α × Text := (p.1, p.2 ++ b)

/-- A part is read from the front of a text, and nothing but plain characters has a part in it. -/
structure Local {α : Type} (f : Text → Option (α × Text)) : Prop where
  append : ∀ (a : Text) {b : Text}, EndsPlain b → f (a ++ b) = (f a).map (followedBy b)
  isSuffix : ∀ {a t : Text} {x : α}, f a = some (x, t) → t <:+ a

theorem isPlain_of_isDigit {c : Char} (h : isDigit c = true) : isPlain c = true := by
  simp only [isDigit, Bool.and_eq_true, decide_eq_true_eq] at h
  have hdigit : c.isDigit = true := by
    simp only [Char.isDigit, Bool.and_eq_true, decide_eq_true_eq]
    exact h
  simp [isPlain, Char.isAlphanum, hdigit]

theorem EndsPlain.isDigit_eq {c : Char} {t : Text} (h : EndsPlain (c :: t)) : isDigit c = false := by
  have hc : isPlain c = false := h c rfl
  cases hd : isDigit c with
  | false => rfl
  | true => rw [isPlain_of_isDigit hd] at hc; cases hc

theorem EndsPlain.endsDigits {t : Text} (h : EndsPlain t) : EndsDigits t := by
  cases t with
  | nil => exact fun c hc => nomatch hc
  | cons d t =>
    intro c hc
    obtain rfl := Option.some.inj hc
    exact h.isDigit_eq

theorem takeWhile_isDigit_append {b : Text} (hb : EndsPlain b) : ∀ a : Text,
    (a ++ b).takeWhile isDigit = a.takeWhile isDigit ∧ (a ++ b).dropWhile isDigit = a.dropWhile isDigit ++ b
  | [] => takeWhile_append_of_endsDigits (List.forall_mem_nil _) hb.endsDigits
  | c :: a => by
    obtain ⟨htake, hdrop⟩ := takeWhile_isDigit_append hb a
    cases hc : isDigit c <;> simp [hc, htake, hdrop]

theorem head?_isDigit_append {b : Text} (hb : EndsPlain b) (a : Text) :
    (a ++ b).head?.any isDigit = a.head?.any isDigit := by
  cases a with
  | cons c a => rfl
  | nil =>
    cases b with
    | nil => rfl
    | cons c b => simpa using hb.isDigit_eq

theorem EndsPlain.ne {c : Char} {t : Text} (h : EndsPlain (c :: t)) {d : Char} (hd : isPlain d = true) : c ≠ d := by
  rintro rfl
  exact Bool.false_ne_true ((h c rfl).symm.trans hd)

theorem local_wholePart : Local wholePart where
  append a b hb := by
    cases a with
    | nil =>
      cases b with
      | nil => rfl
      | cons c b =>
        have hne : c ≠ '0' := hb.ne rfl
        have hc := hb.isDigit_eq
        show wholePart (c :: b) = none
        rw [wholePart, hc]
        · rfl
        · exact hne
    | cons c a =>
      obtain ⟨htake, hdrop⟩ := takeWhile_isDigit_append hb a
      by_cases h0 : c = '0'
      · subst h0
        rfl
      · rw [List.cons_append, wholePart, wholePart, htake, hdrop]
        · split <;> rfl
        · exact h0
        · exact h0
  isSuffix {a t x} h := by
    unfold wholePart at h
    split at h
    · cases h
    · cases h
      exact List.suffix_cons _ _
    · split at h
      · cases h
        exact (List.dropWhile_suffix _).trans (List.suffix_cons _ _)
      · cases h

theorem fraction_of_ne {c : Char} (h : c ≠ '.') (t : Text) : fraction (c :: t) = none := by
  rw [fraction]
  exact fun u hu => h (List.cons.inj hu).1

theorem local_fraction : Local fraction where
  append a b hb := by
    cases a with
    | nil =>
      cases b with
      | nil => rfl
      | cons c b => exact fraction_of_ne (hb.ne rfl) b
    | cons c a =>
      obtain ⟨htake, hdrop⟩ := takeWhile_isDigit_append hb a
      by_cases hc : c = '.'
      · subst hc
        rw [List.cons_append, fraction, fraction, head?_isDigit_append hb, htake, hdrop]
        split <;> rfl
      · rw [List.cons_append, fraction_of_ne hc, fraction_of_ne hc]
        rfl
  isSuffix {a t x} h := by
    unfold fraction at h
    split at h
    · split at h
      · cases h
        exact (List.dropWhile_suffix _).trans (List.suffix_cons _ _)
      · cases h
    · cases h

theorem exponentSign_of_ne {c : Char} (hminus : c ≠ '-') (hplus : c ≠ '+') (t : Text) :
    exponentSign (c :: t) = (false, c :: t) := by
  rw [exponentSign]
  · exact fun u hu => hminus (List.cons.inj hu).1
  · exact fun u hu => hplus (List.cons.inj hu).1

theorem exponentSign_append {b : Text} (hb : EndsPlain b) (a : Text) :
    exponentSign (a ++ b) = followedBy b (exponentSign a) := by
  cases a with
  | nil =>
    cases b with
    | nil => rfl
    | cons c b => exact exponentSign_of_ne (hb.ne rfl) (hb.ne rfl) b
  | cons c a =>
    by_cases hminus : c = '-'
    · subst hminus
      rfl
    by_cases hplus : c = '+'
    · subst hplus
      rfl
    rw [List.cons_append, exponentSign_of_ne hminus hplus, exponentSign_of_ne hminus hplus]
    rfl

theorem exponentSign_isSuffix (a : Text) : (exponentSign a).2 <:+ a := by
  unfold exponentSign
  split
  · exact List.suffix_cons _ _
  · exact List.suffix_cons _ _
  · exact List.suffix_rfl

theorem local_exponent : Local exponent where
  append a b hb := by
    cases a with
    | nil =>
      cases b with
      | nil => rfl
      | cons c b =>
        have hlower : c ≠ 'e' := hb.ne rfl
        have hupper : c ≠ 'E' := hb.ne rfl
        show exponent (c :: b) = none
        rw [exponent, if_neg (by simp [hlower, hupper])]
    | cons c a =>
      obtain ⟨htake, hdrop⟩ := takeWhile_isDigit_append hb (exponentSign a).2
      rw [List.cons_append, exponent, exponent, exponentSign_append hb]
      simp only [followedBy, head?_isDigit_append hb, htake, hdrop]
      split
      · split <;> rfl
      · rfl
  isSuffix {a t x} h := by
    unfold exponent at h
    split at h
    · rename_i c a
      split at h
      · simp only at h
        split at h
        · cases h
          exact ((List.dropWhile_suffix _).trans (exponentSign_isSuffix a)).trans (List.suffix_cons _ _)
        · cases h
      · cases h
    · cases h

theorem after?_append_of_plain {b : Text} (hb : EndsPlain b) : ∀ {word : Text}, word.all isPlain = true → ∀ a : Text,
    Text.after? word (a ++ b) = (Text.after? word a).map (· ++ b)
  | [], _, _ => rfl
  | c :: word, hword, [] => by
    rw [List.all_cons, Bool.and_eq_true] at hword
    cases b with
    | nil => rfl
    | cons d b =>
      have hne : c ≠ d := (hb.ne hword.1).symm
      simp [Text.after?, hne]
  | c :: word, hword, d :: a => by
    rw [List.all_cons, Bool.and_eq_true] at hword
    rw [List.cons_append, Text.after?, Text.after?, after?_append_of_plain hb hword.2]
    split <;> rfl

theorem local_word? : Local word? where
  append a b hb := by
    have hwords : ∀ p ∈ words, p.1.all isPlain = true := by decide
    unfold word?
    generalize words = ws at hwords
    induction ws with
    | nil => rfl
    | cons p ws ih =>
      obtain ⟨hp, hws⟩ := List.forall_mem_cons.1 hwords
      rw [List.findSome?_cons, List.findSome?_cons, after?_append_of_plain hb hp]
      cases Text.after? p.1 a with
      | none => exact ih hws
      | some r => rfl
  isSuffix {a t x} h := by
    obtain ⟨p, -, hp⟩ := List.exists_of_findSome?_eq_some h
    obtain ⟨r, hr, he⟩ := Option.map_eq_some_iff.1 hp
    cases he
    exact ⟨p.1, (Text.after?_eq_some_iff.1 hr).symm⟩

/-! ## Scalars -/

section Scalar

variable {a b r : Text} {v : Value}

theorem gives_integer (limit : Nat) (negative : Bool) (ds : Text) {t u : Text}
    (h : integer none negative ds t = .ok (v, r)) : r = t ∧ Gives (integer (some limit) negative ds u) (v, u) := by
  cases h
  refine ⟨rfl, ?_⟩
  rw [integer]
  split
  · exact .inr ⟨_, _, rfl, .inr ⟨_, _, rfl⟩⟩
  · exact .inl rfl

/-- What stands behind a number has no part in it. -/
theorem gives_unsigned (hb : EndsPlain b) {place : Text} {negative : Bool}
    (h : unsigned none place negative (a ++ b) = .ok (v, r)) (limit : Nat) (u : Text) :
    ∃ t, r = t ++ b ∧ t <:+ a ∧ Gives (unsigned (some limit) u negative a) (v, t) := by
  unfold unsigned at h ⊢
  rw [local_wholePart.append a hb] at h
  cases hwhole : wholePart a with
  | none =>
    rw [hwhole] at h
    cases h
  | some p =>
    obtain ⟨ds, t⟩ := p
    have hrest := local_wholePart.isSuffix hwhole
    have helim : ((fraction t).map (followedBy b)).elim (t ++ b) (·.2) = (fraction t).elim t (·.2) ++ b := by
      cases fraction t <;> rfl
    rw [hwhole] at h
    simp only [Option.map_some, followedBy] at h ⊢
    rw [local_fraction.append t hb, helim, local_exponent.append _ hb] at h
    cases hf : fraction t with
    | none =>
      cases hx : exponent t with
      | none =>
        simp only [hf, hx, Option.elim_none, Option.map_none] at h ⊢
        obtain ⟨rfl, hgives⟩ := gives_integer limit negative ds (u := t) h
        exact ⟨t, rfl, hrest, hgives⟩
      | some q =>
        simp only [hf, hx, Option.elim_none, Option.map_none, Option.map_some, Option.elim_some] at h ⊢
        cases h
        exact ⟨q.2, rfl, (local_exponent.isSuffix hx).trans hrest, gives_ok _⟩
    | some p =>
      have hfraction : p.2 <:+ a := (local_fraction.isSuffix hf).trans hrest
      cases hx : exponent p.2 with
      | none =>
        simp only [hf, hx, Option.elim_none, Option.map_none, Option.map_some, Option.elim_some] at h ⊢
        cases h
        exact ⟨p.2, rfl, hfraction, gives_ok _⟩
      | some q =>
        simp only [hf, hx, Option.map_some, Option.elim_some] at h ⊢
        cases h
        exact ⟨q.2, rfl, (local_exponent.isSuffix hx).trans hfraction, gives_ok _⟩

theorem number_of_ne {limit : Option Nat} {c : Char} (h : c ≠ '-') (t : Text) :
    number limit (c :: t) = unsigned limit (c :: t) false (c :: t) := by
  rw [number]
  exact fun u hu => h (List.cons.inj hu).1

theorem gives_number (hb : EndsPlain b) (h : number none (a ++ b) = .ok (v, r)) (limit : Nat) :
    ∃ t, r = t ++ b ∧ t <:+ a ∧ Gives (number (some limit) a) (v, t) := by
  cases a with
  | nil =>
    cases b with
    | nil => cases h
    | cons c b =>
      rw [List.nil_append, number_of_ne (hb.ne rfl)] at h
      exact gives_unsigned (a := []) hb h limit []
  | cons c a =>
    by_cases hc : c = '-'
    · subst hc
      obtain ⟨t, hr, ht, hgives⟩ := gives_unsigned hb h limit ('-' :: a)
      exact ⟨t, hr, ht.trans (List.suffix_cons _ _), hgives⟩
    · rw [List.cons_append, number_of_ne hc] at h
      rw [number_of_ne hc]
      exact gives_unsigned (a := c :: a) hb h limit _

theorem gives_scalar (hb : EndsPlain b) (h : scalar none (a ++ b) = .ok (v, r)) (limit : Nat) :
    ∃ t, r = t ++ b ∧ t <:+ a ∧ Gives (scalar (some limit) a) (v, t) := by
  unfold scalar at h ⊢
  rw [local_word?.append a hb] at h
  cases hw : word? a with
  | none =>
    rw [hw] at h
    exact gives_number hb h limit
  | some p =>
    rw [hw] at h
    cases h
    exact ⟨p.2, rfl, local_word?.isSuffix hw, gives_ok _⟩

end Scalar

end Json
end Licensing
