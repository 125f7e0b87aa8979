import Licensing.Proofs.Parser.Forward
/-!
# Tokens as a partition

The tokens at a cursor cut what lies ahead of it into pieces that are as long as they can be: what no token covers is a
space, a parenthesis stands alone, and any other token ends where a space, a parenthesis or the end stops it.  There is
only one such list (`isPartition_iff`), because the first of its tokens is the next one (`isPartition_cons_iff`).
-/
namespace Licensing

namespace Token

def Covers (t : Token) (i : Nat) : Prop := t.start ≤ i ∧ i < t.stop

/-- A word that is not broken off: a parenthesis, or some characters without a break up to a break or the end. -/
def IsWhole (word rest : Text) : Prop :=
  (∃ p, isParen p = true ∧ word = [p]) ∨ (word ≠ [] ∧ Unbroken word ∧ ∀ b ∈ rest.head?, isBreak b = true)

theorem IsWhole.ne_nil {word rest : Text} (h : IsWhole word rest) : word ≠ [] := by
  rcases h with ⟨p, -, rfl⟩ | ⟨hne, -⟩
  · exact List.cons_ne_nil p []
  · exact hne

theorem IsWhole.space_not_mem {word rest : Text} (h : IsWhole word rest) : ' ' ∉ word := by
  intro hm
  rcases h with ⟨p, hp, rfl⟩ | ⟨-, hu, -⟩
  · rw [← List.mem_singleton.1 hm] at hp
    cases hp
  · have hb : isBreak ' ' = false := hu ' ' hm
    cases hb

theorem IsWhole.eq_paren {word rest : Text} (h : IsWhole word rest) {p : Char} (hp : isParen p = true)
    (hm : p ∈ word) : word = [p] := by
  rcases h with ⟨q, -, rfl⟩ | ⟨-, hu, -⟩
  · rw [List.mem_singleton.1 hm]
  · have hb : isBreak p = false := hu p hm
    rw [isBreak_of_isParen hp] at hb
    cases hb

theorem first?_spaces (k : Nat) (t : Text) : ∀ n : Nat, first? k (Text.spaces n ++ t) = first? (k + n) t
  | 0 => rfl
  | n + 1 => by
    have ih := first?_spaces (k + 1) t n
    rw [Text.spaces, List.replicate_succ, List.cons_append, first?, if_pos rfl]
    rw [Text.spaces] at ih
    rw [ih, show k + 1 + n = k + (n + 1) by omega]

theorem first?_eq_none_iff : ∀ {k : Nat} {t : Text}, first? k t = none ↔ ∀ c ∈ t, c = ' '
  | _, [] => by simp [first?]
  | k, c :: t => by
    rw [first?, List.forall_mem_cons]
    by_cases hs : c = ' '
    · rw [if_pos hs, first?_eq_none_iff]
      simp [hs]
    · rw [if_neg hs]
      simp only [hs, false_and, iff_false]
      split <;> exact Option.some_ne_none _

theorem first?_of_isWhole {word rest : Text} (h : IsWhole word rest) (k : Nat) :
    first? k (word ++ rest) = some ⟨word, k⟩ := by
  rcases h with ⟨p, hp, rfl⟩ | ⟨hne, hu, hend⟩
  · have hs : p ≠ ' ' := by rintro rfl; cases hp
    rw [List.singleton_append, first?, if_neg hs, if_pos hp]
  · obtain ⟨c, u, rfl⟩ := List.exists_cons_of_ne_nil hne
    have hc : isBreak c = false := hu c List.mem_cons_self
    have hs : c ≠ ' ' := by rintro rfl; cases hc
    have hp : ¬ isParen c = true := fun hp => by
      rw [isBreak_of_isParen hp] at hc
      cases hc
    have hall : ∀ d ∈ u, (!isBreak d) = true := fun d hd => by
      rw [hu d (List.mem_cons_of_mem c hd)]
      rfl
    have hrest : rest.takeWhile (!isBreak ·) = [] := by
      cases rest with
      | nil => rfl
      | cons b r => rw [List.takeWhile_cons, hend b rfl]; rfl
    rw [List.cons_append, first?, if_neg hs, if_neg hp, List.takeWhile_append_of_pos hall, hrest, List.append_nil]

/-- **The first token of a text** stands behind some spaces and is whole. -/
theorem first?_eq_some_iff : ∀ {k : Nat} {t : Text} {w : Token}, first? k t = some w ↔
    ∃ n rest, t = Text.spaces n ++ (w.text ++ rest) ∧ w.start = k + n ∧ IsWhole w.text rest := by
  intro k t w
  constructor
  · intro h
    induction t generalizing k with
    | nil => cases h
    | cons c t ih =>
      rw [first?] at h
      by_cases hs : c = ' '
      · rw [if_pos hs] at h
        obtain ⟨n, rest, rfl, hstart, hw⟩ := ih h
        refine ⟨n + 1, rest, ?_, by omega, hw⟩
        rw [hs, Text.spaces, Text.spaces, List.replicate_succ, List.cons_append]
      · rw [if_neg hs] at h
        by_cases hp : isParen c = true
        · rw [if_pos hp] at h
          obtain rfl := Option.some.inj h
          exact ⟨0, t, rfl, rfl, Or.inl ⟨c, hp, rfl⟩⟩
        · rw [if_neg hp] at h
          obtain rfl := Option.some.inj h
          have hc : isBreak c = false := by simp [isBreak, hs, hp]
          refine ⟨0, t.dropWhile (!isBreak ·), ?_, rfl, Or.inr ⟨List.cons_ne_nil _ _, ?_, ?_⟩⟩
          · simp [Text.spaces, List.takeWhile_append_dropWhile]
          · intro d hd
            rcases List.mem_cons.1 hd with rfl | hd
            · exact hc
            · simpa using List.all_eq_true.1 List.all_takeWhile d hd
          · intro b hb
            have := List.head?_dropWhile_not (fun d => !isBreak d) t
            rw [Option.mem_def.1 hb] at this
            simpa using this
  · rintro ⟨n, rest, rfl, hstart, hw⟩
    rw [first?_spaces, first?_of_isWhole hw, ← hstart]

end Token

namespace Cursor

open Token (IsWhole isBreak isParen)

/-- Only spaces lie between the cursor and a place ahead of it. -/
def Gap (c : Cursor) (k : Nat) : Prop :=
  c.offset ≤ k ∧ ∀ i ch, c.offset ≤ i → i < k → c.source[i]? = some ch → ch = ' '

theorem drop_eq_of_gap {c : Cursor} {k : Nat} (h : c.Gap k) (hk : k ≤ c.source.length) :
    c.source.drop c.offset = Text.spaces (k - c.offset) ++ c.source.drop k := by
  have hdrop : (c.source.drop c.offset).drop (k - c.offset) = c.source.drop k := by
    rw [List.drop_drop, Nat.add_sub_cancel' h.1]
  have htake : (c.source.drop c.offset).take (k - c.offset) = Text.spaces (k - c.offset) := by
    refine List.eq_replicate_iff.2 ⟨by simp; omega, fun ch hch => ?_⟩
    obtain ⟨i, hi, rfl⟩ := List.mem_iff_getElem.1 hch
    rw [List.length_take] at hi
    refine h.2 (c.offset + i) _ (Nat.le_add_right _ _) (by omega) ?_
    rw [List.getElem_take, List.getElem_drop, List.getElem?_eq_getElem]
  rw [← htake, ← hdrop, List.take_append_drop]

theorem gap_of_drop_eq {c : Cursor} {n : Nat} {t : Text} (h : c.source.drop c.offset = Text.spaces n ++ t) :
    c.Gap (c.offset + n) := by
  refine ⟨Nat.le_add_right _ _, fun i ch hi hlt hch => ?_⟩
  have hget : (c.source.drop c.offset)[i - c.offset]? = some ch := by
    rw [List.getElem?_drop, Nat.add_sub_cancel' hi, hch]
  rw [h, List.getElem?_append_left (by simp [Text.spaces]; omega)] at hget
  exact List.eq_of_mem_replicate (List.mem_of_getElem? hget)

/-- **The next token of a cursor**, by the places of its source. -/
theorem next?_eq_some_iff {c rest : Cursor} {t : Token} :
    c.next? = some (t, rest) ↔ rest = { c with offset := t.stop } ∧ c.Gap t.start ∧
      c.source.extract t.start t.stop = t.text ∧ IsWhole t.text (c.source.drop t.stop) := by
  have hnext : c.next? = some (t, rest) ↔ c.peek? = some t ∧ rest = { c with offset := t.stop } := by
    unfold next?
    cases c.peek? with
    | none => simp
    | some u =>
      simp only [Option.map_some, Option.some.injEq, Prod.mk.injEq]
      constructor
      · rintro ⟨rfl, rfl⟩
        exact ⟨rfl, rfl⟩
      · rintro ⟨rfl, rfl⟩
        exact ⟨rfl, rfl⟩
  have hlen : t.stop - t.start = t.text.length := Nat.add_sub_cancel_left ..
  rw [hnext, and_comm, peek?, Token.first?_eq_some_iff, List.extract_eq_take_drop, hlen]
  refine and_congr_right fun _ => ?_
  constructor
  · rintro ⟨n, rest, hdrop, hstart, hw⟩
    have hword : c.source.drop t.start = t.text ++ rest := by
      rw [hstart, ← List.drop_drop, hdrop]
      exact List.drop_left' (by simp [Text.spaces])
    have hrest : c.source.drop t.stop = rest := by
      rw [Token.stop, ← List.drop_drop, hword]
      exact List.drop_left
    rw [hrest, hword]
    exact ⟨hstart ▸ gap_of_drop_eq hdrop, List.take_left, hw⟩
  · rintro ⟨hgap, htext, hw⟩
    have hpos := List.length_pos_iff.2 hw.ne_nil
    have hle : t.start ≤ c.source.length := by
      have := congrArg List.length htext
      simp at this
      omega
    refine ⟨t.start - c.offset, c.source.drop t.stop, ?_, (Nat.add_sub_cancel' hgap.1).symm, hw⟩
    have hword : t.text ++ c.source.drop t.stop = c.source.drop t.start := by
      have h := List.take_append_drop t.text.length (c.source.drop t.start)
      rw [htext, List.drop_drop] at h
      exact h
    rw [drop_eq_of_gap hgap hle, hword]

/-! ## Partitions -/

/-- A word may begin here: at the cursor, or behind a break. -/
def BeginsAt (c : Cursor) (k : Nat) : Prop :=
  k = c.offset ∨ ∃ i b, k = i + 1 ∧ c.source[i]? = some b ∧ isBreak b = true

/-- A word may stop here: at the end of the source, or in front of a break. -/
def StopsAt (c : Cursor) (k : Nat) : Prop :=
  k = c.source.length ∨ ∃ b, c.source[k]? = some b ∧ isBreak b = true

/-- What the text ahead of a cursor is cut into, said by the places of the source alone. -/
structure IsPartition (c : Cursor) (ts : List Token) : Prop where
  text : ∀ t ∈ ts, t.text ≠ [] ∧ c.source.extract t.start t.stop = t.text
  ahead : ∀ t ∈ ts, c.offset ≤ t.start
  ordered : ts.Pairwise fun t u => t.stop ≤ u.start
  gaps : ∀ i ch, c.offset ≤ i → c.source[i]? = some ch → (∀ t ∈ ts, ¬ t.Covers i) → ch = ' '
  spaces : ∀ t ∈ ts, ' ' ∉ t.text
  parens : ∀ t ∈ ts, ∀ p ∈ t.text, isParen p = true → t.text = [p]
  bounds : ∀ t ∈ ts, (∀ p ∈ t.text, isParen p = false) → c.BeginsAt t.start ∧ c.StopsAt t.stop

variable {c rest : Cursor} {t : Token} {ts : List Token}

theorem getElem?_of_extract {source : Text} (h : source.extract t.start t.stop = t.text) {j : Nat}
    (hj : j < t.text.length) : source[t.start + j]? = t.text[j]? := by
  have hlen : t.stop - t.start = t.text.length := Nat.add_sub_cancel_left ..
  rw [List.extract_eq_take_drop, hlen] at h
  conv => rhs; rw [← h]
  rw [List.getElem?_take_of_lt hj, List.getElem?_drop]

theorem stop_le_of_extract {source : Text} (h : source.extract t.start t.stop = t.text) (hne : t.text ≠ []) :
    t.stop ≤ source.length := by
  have hpos := List.length_pos_iff.2 hne
  have hlen := congrArg List.length h
  simp only [List.extract_eq_take_drop, List.length_take, List.length_drop] at hlen
  unfold Token.stop at *
  omega

theorem beginsAt_of_gap {k : Nat} (h : c.Gap k) (hk : k ≤ c.source.length) : c.BeginsAt k := by
  rcases Nat.eq_or_lt_of_le h.1 with heq | hgt
  · exact Or.inl heq.symm
  · obtain ⟨i, rfl⟩ : ∃ i, k = i + 1 := ⟨k - 1, by omega⟩
    obtain ⟨b, hb⟩ : ∃ b, c.source[i]? = some b := ⟨_, List.getElem?_eq_getElem hk⟩
    refine Or.inr ⟨i, b, rfl, hb, ?_⟩
    rw [h.2 i b (Nat.le_of_lt_succ hgt) (Nat.lt_succ_self i) hb]
    rfl

/-- A word behind another one without a gap begins behind a break: either of them would go on otherwise. -/
theorem beginsAt_of_adjacent {u : Token} (hw : IsWhole t.text (c.source.drop t.stop))
    (htext : c.source.extract t.start t.stop = t.text) (hu : c.source.extract u.start u.stop = u.text)
    (hne : u.text ≠ []) (hspace : ' ' ∉ u.text) (hparen : ∀ p ∈ u.text, isParen p = false) (hadj : u.start = t.stop) :
    c.BeginsAt u.start := by
  rcases hw with ⟨p, hp, hpt⟩ | ⟨-, -, hend⟩
  · refine Or.inr ⟨t.start, p, ?_, ?_, Token.isBreak_of_isParen hp⟩
    · rw [hadj, Token.stop, hpt]
      rfl
    · have h := getElem?_of_extract htext (j := 0) (by simp [hpt])
      simpa [hpt] using h
  · exfalso
    obtain ⟨d, v, hd⟩ := List.exists_cons_of_ne_nil hne
    have hat : c.source[t.stop]? = some d := by
      have h := getElem?_of_extract hu (j := 0) (by simp [hd])
      simpa [hd, hadj] using h
    have hb : isBreak d = true := hend d (by rw [List.head?_drop, hat]; rfl)
    have hmem : d ∈ u.text := hd ▸ List.mem_cons_self
    rw [isBreak, hparen d hmem, Bool.or_false, beq_iff_eq] at hb
    exact hspace (hb ▸ hmem)

theorem stopsAt_of_isWhole (hw : IsWhole t.text (c.source.drop t.stop)) (hlen : t.stop ≤ c.source.length)
    (hparen : ∀ p ∈ t.text, isParen p = false) : c.StopsAt t.stop := by
  rcases hw with ⟨p, hp, hpt⟩ | ⟨-, -, hend⟩
  · rw [hparen p (hpt ▸ List.mem_cons_self)] at hp
    cases hp
  · cases hat : c.source[t.stop]? with
    | none => exact Or.inl (Nat.le_antisymm hlen (List.getElem?_eq_none_iff.1 hat))
    | some b => exact Or.inr ⟨b, hat, hend b (by rw [List.head?_drop, hat]; rfl)⟩

theorem IsPartition.isWhole (h : c.IsPartition ts) (ht : t ∈ ts) : IsWhole t.text (c.source.drop t.stop) := by
  by_cases hparen : ∃ p ∈ t.text, isParen p = true
  · obtain ⟨p, hm, hp⟩ := hparen
    exact Or.inl ⟨p, hp, h.parens t ht p hm hp⟩
  · have hfree : ∀ p ∈ t.text, isParen p = false := fun p hm => Bool.eq_false_iff.2 fun hp => hparen ⟨p, hm, hp⟩
    refine Or.inr ⟨(h.text t ht).1, fun p hm => ?_, fun b hb => ?_⟩
    · have hs : p ≠ ' ' := fun hs => h.spaces t ht (hs ▸ hm)
      simp [isBreak, hs, hfree p hm]
    · rw [List.head?_drop, Option.mem_def] at hb
      rcases (h.bounds t ht hfree).2 with hend | ⟨d, hd, hbreak⟩
      · rw [List.getElem?_eq_none (Nat.le_of_eq hend.symm)] at hb
        cases hb
      · rw [hb] at hd
        exact Option.some.inj hd ▸ hbreak

theorem isPartition_nil_iff : c.IsPartition [] ↔ c.next? = none := by
  have hnone : c.next? = none ↔ ∀ ch ∈ c.source.drop c.offset, ch = ' ' := by
    rw [next?, Option.map_eq_none_iff, peek?, Token.first?_eq_none_iff]
  rw [hnone]
  constructor
  · intro h ch hch
    obtain ⟨i, hi⟩ := List.mem_iff_getElem?.1 hch
    rw [List.getElem?_drop] at hi
    exact h.gaps _ ch (Nat.le_add_right _ _) hi (List.forall_mem_nil _)
  · intro h
    refine ⟨List.forall_mem_nil _, List.forall_mem_nil _, .nil, fun i ch hi hch _ => ?_, List.forall_mem_nil _,
      List.forall_mem_nil _, List.forall_mem_nil _⟩
    refine h ch (List.mem_of_getElem? (i := i - c.offset) ?_)
    rw [List.getElem?_drop, Nat.add_sub_cancel' hi, hch]

theorem isPartition_cons (hn : c.next? = some (t, rest)) (h : rest.IsPartition ts) : c.IsPartition (t :: ts) := by
  obtain ⟨rfl, hgap, htext, hw⟩ := next?_eq_some_iff.1 hn
  have hlt : t.start < t.stop := Token.start_lt_stop_of_ne_nil hw.ne_nil
  have hlen : t.stop ≤ c.source.length := stop_le_of_extract htext hw.ne_nil
  have hahead : ∀ u ∈ ts, t.stop ≤ u.start := h.ahead
  constructor
  case text => exact List.forall_mem_cons.2 ⟨⟨hw.ne_nil, htext⟩, h.text⟩
  case ahead =>
    refine List.forall_mem_cons.2 ⟨hgap.1, fun u hu => ?_⟩
    have := hahead u hu
    have := hgap.1
    omega
  case ordered => exact List.pairwise_cons.2 ⟨hahead, h.ordered⟩
  case gaps =>
    intro i ch hi hch hcov
    by_cases hbefore : i < t.start
    · exact hgap.2 i ch hi hbefore hch
    · have hbehind : ¬ t.Covers i := hcov t List.mem_cons_self
      unfold Token.Covers at hbehind
      exact h.gaps i ch (by dsimp only; omega) hch fun u hu => hcov u (List.mem_cons_of_mem t hu)
  case spaces => exact List.forall_mem_cons.2 ⟨hw.space_not_mem, h.spaces⟩
  case parens => exact List.forall_mem_cons.2 ⟨fun p hm hp => hw.eq_paren hp hm, h.parens⟩
  case bounds =>
    refine List.forall_mem_cons.2 ⟨fun hparen => ?_, fun u hu hparen => ?_⟩
    · exact ⟨beginsAt_of_gap hgap (Nat.le_trans (Nat.le_of_lt hlt) hlen), stopsAt_of_isWhole hw hlen hparen⟩
    · -- a word right behind the first token begins at the later cursor, but not at the earlier one
      obtain ⟨hbegins, hstops⟩ := h.bounds u hu hparen
      refine ⟨?_, hstops⟩
      rcases hbegins with hadj | hbroken
      · exact beginsAt_of_adjacent hw htext (h.text u hu).2 (h.text u hu).1 (h.spaces u hu) hparen hadj
      · exact Or.inr hbroken

theorem exists_next?_of_isPartition (h : c.IsPartition (t :: ts)) :
    ∃ rest, c.next? = some (t, rest) ∧ rest.IsPartition ts := by
  obtain ⟨hahead, hordered⟩ := List.pairwise_cons.1 h.ordered
  obtain ⟨hne, htext⟩ := h.text t List.mem_cons_self
  have hstart : c.offset ≤ t.start := h.ahead t List.mem_cons_self
  have hlt : t.start < t.stop := Token.start_lt_stop_of_ne_nil hne
  have hgap : c.Gap t.start := by
    refine ⟨hstart, fun i ch hi hlt' hch => h.gaps i ch hi hch fun u hu hcov => ?_⟩
    unfold Token.Covers at hcov
    rcases List.mem_cons.1 hu with rfl | hu
    · omega
    · have := hahead u hu
      omega
  have hw : IsWhole t.text (c.source.drop t.stop) := h.isWhole List.mem_cons_self
  refine ⟨{ c with offset := t.stop }, next?_eq_some_iff.2 ⟨rfl, hgap, htext, hw⟩, ?_⟩
  constructor
  case text => exact fun u hu => h.text u (List.mem_cons_of_mem t hu)
  case ahead => exact hahead
  case ordered => exact hordered
  case gaps =>
    intro i ch hi hch hcov
    refine h.gaps i ch (by dsimp only at hi; omega) hch (List.forall_mem_cons.2 ⟨fun ht => ?_, hcov⟩)
    exact absurd ht.2 (Nat.not_lt.2 hi)
  case spaces => exact fun u hu => h.spaces u (List.mem_cons_of_mem t hu)
  case parens => exact fun u hu => h.parens u (List.mem_cons_of_mem t hu)
  case bounds =>
    intro u hu hparen
    obtain ⟨hbegins, hstops⟩ := h.bounds u (List.mem_cons_of_mem t hu) hparen
    refine ⟨?_, hstops⟩
    rcases hbegins with heq | hbroken
    · have := hahead u hu
      omega
    · exact Or.inr hbroken

/-- The first token of a partition is the next one, and the others are a partition of what lies behind it. -/
theorem isPartition_cons_iff :
    c.IsPartition (t :: ts) ↔ ∃ rest, c.next? = some (t, rest) ∧ rest.IsPartition ts := by
  constructor
  · exact exists_next?_of_isPartition
  · rintro ⟨rest, hn, h⟩
    exact isPartition_cons hn h

/-- **There is one partition of what lies ahead of a cursor, the list of its tokens.** -/
theorem isPartition_iff : ∀ {c : Cursor} {ts : List Token}, c.IsPartition ts ↔ ts = c.tokens := by
  intro c ts
  induction ts generalizing c with
  | nil =>
    rw [isPartition_nil_iff, tokens_eq]
    cases c.next? <;> simp
  | cons t ts ih =>
    rw [isPartition_cons_iff, tokens_eq]
    cases hn : c.next? with
    | none => simp
    | some p =>
      obtain ⟨u, rest⟩ := p
      simp only [Option.some.injEq, Prod.mk.injEq, List.cons.injEq, ih]
      constructor
      · rintro ⟨rest', ⟨rfl, rfl⟩, hts⟩
        exact ⟨rfl, hts⟩
      · rintro ⟨rfl, hts⟩
        exact ⟨rest, ⟨rfl, rfl⟩, hts⟩

theorem exists_next?_of_tokens (h : c.tokens = t :: ts) :
    ∃ rest, c.next? = some (t, rest) ∧ rest.tokens = ts := by
  obtain ⟨rest, hn, hrest⟩ := isPartition_cons_iff.1 (isPartition_iff.2 h.symm)
  exact ⟨rest, hn, (isPartition_iff.1 hrest).symm⟩

/-! ## Listing -/

theorem offset_lt_of_next? (h : c.next? = some (t, rest)) : c.offset < rest.offset ∧ rest.offset ≤ c.source.length := by
  obtain ⟨rfl, hgap, htext, hw⟩ := next?_eq_some_iff.1 h
  have hlt : t.start < t.stop := Token.start_lt_stop_of_ne_nil hw.ne_nil
  exact ⟨Nat.lt_of_le_of_lt hgap.1 hlt, stop_le_of_extract htext hw.ne_nil⟩

theorem next?_of_length_le (h : c.source.length ≤ c.offset) : c.next? = none := by
  cases hn : c.next? with
  | none => rfl
  | some p =>
    obtain ⟨t, rest⟩ := p
    have := offset_lt_of_next? hn
    omega

/-- Taking the next token again and again passes all of them and stops behind the last. -/
theorem exists_passes_tokens (c : Cursor) : ∃ rest, c.Passes c.tokens rest ∧ rest.next? = none := by
  induction hts : c.tokens generalizing c with
  | nil =>
    refine ⟨c, .stay, ?_⟩
    rwa [← isPartition_nil_iff, isPartition_iff, eq_comm]
  | cons t ts ih =>
    obtain ⟨mid, hn, hmid⟩ := exists_next?_of_tokens hts
    obtain ⟨rest, hpass, hend⟩ := ih mid hmid
    exact ⟨rest, .next hn hpass, hend⟩

theorem tokens_from_stop {front behind : List Token} (h : c.tokens = front ++ t :: behind) :
    ({ c with offset := t.stop } : Cursor).tokens = behind := by
  induction front generalizing c with
  | nil =>
    obtain ⟨rest, hn, hrest⟩ := exists_next?_of_tokens h
    obtain ⟨rfl, -⟩ := next?_eq_some_iff.1 hn
    exact hrest
  | cons u front ih =>
    obtain ⟨rest, hn, hrest⟩ := exists_next?_of_tokens h
    obtain ⟨rfl, -⟩ := next?_eq_some_iff.1 hn
    exact ih (c := { c with offset := u.stop }) hrest

/-- **The tokens at a cursor are the only partition of what lies ahead of it** into pieces as long as they can be.  The
tokens at the end of one of them are those behind it; taking the next token moves the cursor forward and never past
the end, and taking one after the other lists them all and then stops; at the end of the source and past it there is
none. -/
theorem tokens_unique_partition (c : Cursor) :
    (∀ ts, c.IsPartition ts ↔ ts = c.tokens) ∧
    (∀ front t behind, c.tokens = front ++ t :: behind →
      ({ c with offset := t.stop } : Cursor).tokens = behind) ∧
    (∀ t rest, c.next? = some (t, rest) → c.offset < rest.offset ∧ rest.offset ≤ c.source.length) ∧
    (∃ rest, c.Passes c.tokens rest ∧ rest.next? = none) ∧
    (c.source.length ≤ c.offset → c.tokens = [] ∧ c.next? = none) := by
  refine ⟨fun ts => isPartition_iff, fun front t behind h => tokens_from_stop h, fun t rest h => offset_lt_of_next? h,
    exists_passes_tokens c, fun h => ?_⟩
  have hn := next?_of_length_le h
  exact ⟨(isPartition_iff.1 (isPartition_nil_iff.2 hn)).symm, hn⟩

theorem tokens_unique_partition_inside_word :
    let c : Cursor := ⟨"  GPL(MIT)x  OR ".toList, 3⟩
    let past : Cursor := ⟨"MIT".toList, 5⟩
    let front : List Token := [⟨"PL".toList, 3⟩, ⟨['('], 5⟩]
    let behind : List Token := [⟨[')'], 9⟩, ⟨['x'], 10⟩, ⟨"OR".toList, 13⟩]
    c.tokens = front ++ ⟨"MIT".toList, 6⟩ :: behind ∧ c.IsPartition (front ++ ⟨"MIT".toList, 6⟩ :: behind) ∧
      (⟨c.source, 9⟩ : Cursor).tokens = behind ∧
      c.next? = some (⟨"PL".toList, 3⟩, ⟨c.source, 5⟩) ∧ c.offset < 5 ∧
      past.source.length ≤ past.offset ∧ past.tokens = [] ∧ past.next? = none := by
  intro c past front behind
  have htokens : c.tokens = front ++ ⟨"MIT".toList, 6⟩ :: behind := by decide +kernel
  have hnext : c.next? = some (⟨"PL".toList, 3⟩, ⟨c.source, 5⟩) := by decide +kernel
  have hpast : past.source.length ≤ past.offset := by decide +kernel
  obtain ⟨hpartition, hbehind, hforward, -, -⟩ := tokens_unique_partition c
  exact ⟨htokens, (hpartition _).2 htokens.symm, hbehind front _ behind htokens, hnext, (hforward _ _ hnext).1, hpast,
    (tokens_unique_partition past).2.2.2.2 hpast⟩

end Cursor
end Licensing
