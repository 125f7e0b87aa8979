import Licensing.Proofs.Text.LetterCase
/-!
# The words of a text

The list of all tokens is the first token and the list behind it (`Cursor.tokens_eq`), and the texts of the tokens do
not depend on where the text begins.  A break between two texts separates their tokens (`Token.words_append_space`).
-/
namespace Licensing

namespace Token

theorem first?_start_le : ∀ {k : Nat} {t : Text} {w : Token}, first? k t = some w → k ≤ w.start
  | _, [], _, h => by cases h
  | k, c :: t, w, h => by
    rw [first?] at h
    split at h
    · exact Nat.le_of_succ_le (first?_start_le h)
    · split at h <;> (obtain rfl := Option.some.inj h; exact Nat.le_refl k)

theorem first?_text_ne_nil : ∀ {k : Nat} {t : Text} {w : Token}, first? k t = some w → w.text ≠ []
  | _, [], _, h => by cases h
  | k, c :: t, w, h => by
    rw [first?] at h
    split at h
    · exact first?_text_ne_nil h
    · split at h <;> (obtain rfl := Option.some.inj h; exact List.cons_ne_nil _ _)

theorem start_lt_stop_of_ne_nil {w : Token} (h : w.text ≠ []) : w.start < w.stop :=
  Nat.lt_add_of_pos_right (List.length_pos_iff.2 h)

theorem start_lt_stop {k : Nat} {t : Text} {w : Token} (h : first? k t = some w) : w.start < w.stop :=
  start_lt_stop_of_ne_nil (first?_text_ne_nil h)

theorem drop_stop_cons {k : Nat} {t : Text} {w : Token} (c : Char) (h : first? (k + 1) t = some w) :
    (c :: t).drop (w.stop - k) = t.drop (w.stop - (k + 1)) := by
  have h1 := first?_start_le h
  have h2 := start_lt_stop h
  rw [show w.stop - k = (w.stop - (k + 1)) + 1 by omega, List.drop_succ_cons]

/-- **Listing all tokens is taking the first one and listing what stands behind it.** -/
theorem all_eq : ∀ (k : Nat) (t : Text),
    all k t = match first? k t with
      | none => []
      | some w => w :: all w.stop (t.drop (w.stop - k))
  | _, [] => rfl
  | k, c :: t => by
    have ih := all_eq (k + 1) t
    rw [all, first?]
    by_cases hs : c = ' '
    · rw [if_pos hs, if_pos hs, ih]
      cases hf : first? (k + 1) t with
      | none => rfl
      | some w =>
        dsimp only
        rw [drop_stop_cons c hf]
    · rw [if_neg hs, if_neg hs]
      by_cases hp : isParen c = true
      · simp [hp, stop]
      · simp only [hp, Bool.false_or, Bool.false_eq_true, if_false]
        cases t with
        | nil => simp [all, stop]
        | cons d t =>
          simp only [List.head?_cons, Option.all_some]
          by_cases hd : isBreak d = true
          · simp [hd, stop]
          · -- the token begins one character earlier than the one the listing of the rest begins with
            have hd' : d ≠ ' ' ∧ ¬ isParen d = true := by simpa [isBreak, Bool.or_eq_true, not_or] using hd
            rw [ih, first?, if_neg hd'.1, if_neg hd'.2]
            simp only [hd, Bool.false_eq_true, if_false, List.takeWhile_cons, Bool.not_false, if_true, stop,
              List.length_cons]
            generalize (t.takeWhile (!isBreak ·)).length = n
            rw [show k + 1 + (n + 1) - (k + 1) = n + 1 by omega, show k + (n + 1 + 1) - k = n + 1 + 1 by omega,
              show k + (n + 1 + 1) = k + 1 + (n + 1) by omega, List.drop_succ_cons, List.drop_succ_cons,
              List.drop_succ_cons]

end Token

namespace Cursor

/-- **The tokens at a cursor are the next one and those behind it.** -/
theorem tokens_eq (c : Cursor) :
    c.tokens = match c.next? with
      | none => []
      | some (t, rest) => t :: rest.tokens := by
  unfold tokens next? peek?
  rw [Token.all_eq]
  cases hf : Token.first? c.offset (c.source.drop c.offset) with
  | none => rfl
  | some w =>
    have h1 := Token.first?_start_le hf
    have h2 := Token.start_lt_stop hf
    simp only [Option.map_some, List.drop_drop]
    rw [show c.offset + (w.stop - c.offset) = w.stop by omega]

/-- The texts of the tokens from a cursor on. -/
def words (c : Cursor) : List Text := c.tokens.map (·.text)

theorem words_of_next?_none {c : Cursor} (h : c.next? = none) : c.words = [] := by
  rw [words, tokens_eq, h, List.map_nil]

theorem words_of_next?_some {c rest : Cursor} {t : Token} (h : c.next? = some (t, rest)) :
    c.words = t.text :: rest.words := by
  rw [words, tokens_eq, h]
  rfl

theorem next?_of_words_nil {c : Cursor} (h : c.words = []) : c.next? = none := by
  cases hn : c.next? with
  | none => rfl
  | some p => rw [words_of_next?_some hn] at h; cases h

theorem next?_of_words_cons {c : Cursor} {w : Text} {ws : List Text} (h : c.words = w :: ws) :
    ∃ t rest, c.next? = some (t, rest) ∧ t.text = w ∧ rest.words = ws := by
  cases hn : c.next? with
  | none => rw [words_of_next?_none hn] at h; cases h
  | some p =>
    rw [words_of_next?_some hn, List.cons.injEq] at h
    exact ⟨p.1, p.2, rfl, h.1, h.2⟩

theorem peek?_eq_none_iff {c : Cursor} : c.peek? = none ↔ c.words = [] := by
  constructor
  · intro h
    exact words_of_next?_none (by rw [next?, h]; rfl)
  · intro h
    have := next?_of_words_nil h
    rwa [next?, Option.map_eq_none_iff] at this

end Cursor

namespace Token

/-- The texts of the tokens of a text. -/
def words (t : Text) : List Text := (Cursor.ofText t).words

theorem map_text_all : ∀ (j k : Nat) (t : Text), (all j t).map (·.text) = (all k t).map (·.text)
  | _, _, [] => rfl
  | j, k, c :: t => by
    have ih := map_text_all (j + 1) (k + 1) t
    rw [all, all]
    split
    · exact ih
    · split
      · rw [List.map_cons, List.map_cons, ih]
      · generalize all (j + 1) t = A at ih
        generalize all (k + 1) t = B at ih
        cases A <;> cases B <;> simp_all

theorem words_eq_map (k : Nat) (t : Text) : words t = (all k t).map (·.text) := map_text_all 0 k t

theorem words_nil : words [] = [] := rfl

/-- One more character in front of a text: a space adds nothing, a parenthesis is a token, and any other character is
one too unless it joins the token that follows at once. -/
theorem words_cons (c : Char) (t : Text) :
    words (c :: t) = if c = ' ' then words t
      else if isParen c || t.head?.all isBreak then [c] :: words t
      else match words t with
        | [] => [[c]]
        | w :: ws => (c :: w) :: ws := by
  rw [words_eq_map 0 (c :: t), words_eq_map 1 t, all]
  split
  · rfl
  · split
    · rfl
    · cases all (0 + 1) t <;> rfl

theorem words_space (t : Text) : words (' ' :: t) = words t := by
  rw [words_cons, if_pos rfl]

theorem words_paren {c : Char} (h : isParen c = true) (t : Text) : words (c :: t) = [c] :: words t := by
  have hs : c ≠ ' ' := by rintro rfl; cases h
  rw [words_cons, if_neg hs, h, Bool.true_or, if_pos rfl]

/-- No character of the text ends a token. -/
def Unbroken (t : Text) : Prop := ∀ c ∈ t, isBreak c = false

instance (t : Text) : Decidable (Unbroken t) :=
  decidable_of_iff (t.all (!isBreak ·) = true) (by simp [Unbroken])

theorem Unbroken.of_folded_eq {s t : Text} (h : s.folded = t.folded) (hs : Unbroken s) : Unbroken t := by
  intro c hc
  have hm : Text.lowerAscii c ∈ s.folded := h ▸ List.mem_map_of_mem hc
  obtain ⟨d, hd, hdc⟩ := List.mem_map.1 hm
  rw [← Text.isBreak_lowerAscii c, ← hdc, Text.isBreak_lowerAscii]
  exact hs d hd

theorem Unbroken.append {s t : Text} (hs : Unbroken s) (ht : Unbroken t) : Unbroken (s ++ t) := by
  intro c hc
  rcases List.mem_append.1 hc with h | h
  · exact hs c h
  · exact ht c h

theorem isBreak_of_isParen {c : Char} (h : isParen c = true) : isBreak c = true := by
  rw [isBreak, h, Bool.or_true]

theorem Unbroken.ne_paren {c : Char} (hc : isParen c = true) {t : Text} (h : Unbroken t) : t ≠ [c] := by
  rintro rfl
  have hb := isBreak_of_isParen hc
  rw [h c List.mem_cons_self] at hb
  cases hb

theorem words_ne_nil {c : Char} {t : Text} (h : isBreak c = false) : words (c :: t) ≠ [] := by
  have hs : c ≠ ' ' := by rintro rfl; cases h
  rw [words_cons, if_neg hs]
  split
  · exact List.cons_ne_nil _ _
  · cases words t <;> exact List.cons_ne_nil _ _

/-- **A break separates the tokens before it from those after it.** -/
theorem words_append_break {b : Char} (hb : isBreak b = true) : ∀ (s t : Text),
    words (s ++ b :: t) = words s ++ words (b :: t)
  | [], _ => rfl
  | c :: s, t => by
    have ih := words_append_break hb s t
    have hhead : (s ++ b :: t).head?.all isBreak = s.head?.all isBreak := by
      cases s with
      | nil => simpa using hb
      | cons d s => rfl
    rw [List.cons_append, words_cons, words_cons c s, hhead, ih]
    split
    · rfl
    · split
      · rfl
      · rename_i hj
        cases s with
        | nil => simp at hj
        | cons d s =>
          -- the character joins the first token of the part before the break
          have hd : isBreak d = false := by simp at hj; exact hj.2
          cases hw : words (d :: s) with
          | nil => exact absurd hw (words_ne_nil hd)
          | cons w ws => rfl

theorem words_append_space (s t : Text) : words (s ++ ' ' :: t) = words s ++ words t := by
  rw [words_append_break rfl, words_space]

/-- **A text without breaks is one token.** -/
theorem words_of_unbroken : ∀ {t : Text}, t ≠ [] → Unbroken t → words t = [t]
  | [], h, _ => absurd rfl h
  | [c], _, h => by
    have hc := h c List.mem_cons_self
    have hs : c ≠ ' ' := by rintro rfl; cases hc
    rw [words_cons, if_neg hs]
    simp [words_nil]
  | c :: d :: t, _, h => by
    have hc := h c List.mem_cons_self
    have hd := h d (List.mem_cons_of_mem _ List.mem_cons_self)
    have hs : c ≠ ' ' := by rintro rfl; cases hc
    have hp : isParen c = false := by simp only [isBreak, Bool.or_eq_false_iff] at hc; exact hc.2
    rw [words_cons, if_neg hs, words_of_unbroken (List.cons_ne_nil d t) fun x hx => h x (List.mem_cons_of_mem _ hx)]
    simp [hp, hd]

/-- What a token may be: a parenthesis, or some characters without a break. -/
def IsWord (t : Text) : Prop := t = ['('] ∨ t = [')'] ∨ (t ≠ [] ∧ Unbroken t)

theorem words_of_isWord {t : Text} (h : IsWord t) : words t = [t] := by
  rcases h with rfl | rfl | ⟨hne, hu⟩
  · rfl
  · rfl
  · exact words_of_unbroken hne hu

/-- **Words joined by spaces are the words of the text.** -/
theorem words_join : ∀ {ts : List Text}, (∀ t ∈ ts, IsWord t) → words (Text.join [' '] ts) = ts
  | [], _ => rfl
  | [t], h => by
    rw [Text.join, List.intercalate_singleton]
    exact words_of_isWord (h t List.mem_cons_self)
  | t :: u :: ts, h => by
    have hjoin : Text.join [' '] (t :: u :: ts) = t ++ ' ' :: Text.join [' '] (u :: ts) := by
      simp [Text.join, List.intercalate_cons_cons]
    rw [hjoin, words_append_space, words_of_isWord (h t List.mem_cons_self),
      words_join fun w hw => h w (List.mem_cons_of_mem t hw), List.singleton_append]

end Token
end Licensing
