import Licensing.Text.LetterCase
import Licensing.Token
/-!
# ASCII letter case

Making ASCII capitals small changes no other character, so it keeps ASCII texts apart from all others and leaves every
break between tokens where it is.  On an ASCII text the full lower-case mapping does nothing else, and on any text it
comes to the same whether or not the ASCII capitals are made small first.
-/
namespace Licensing
namespace Text

/-- Two texts have one folded form exactly when they are equal but for the case of ASCII letters. -/
def folded (t : Text) : Text := t.map lowerAscii

theorem toNat_lowerAscii (c : Char) :
    (lowerAscii c).toNat = if 65 ≤ c.toNat ∧ c.toNat ≤ 90 then c.toNat + 32 else c.toNat := by
  unfold lowerAscii
  rw [show 'A'.toNat = 65 from rfl, show 'Z'.toNat = 90 from rfl]
  by_cases h : 65 ≤ c.toNat ∧ c.toNat ≤ 90
  · have hv : (c.toNat + 32).isValidChar := Or.inl (by omega)
    rw [if_pos (by simpa using h), if_pos h, Char.ofNat, dif_pos hv]
    rfl
  · rw [if_neg (by simpa using h), if_neg h]

theorem toNat_lowerAscii_lt_iff (c : Char) : (lowerAscii c).toNat < 128 ↔ c.toNat < 128 := by
  rw [toNat_lowerAscii]
  split <;> omega

theorem lowerAscii_eq_plus_iff {c : Char} : lowerAscii c = '+' ↔ c = '+' := by
  simp only [← Char.toNat_inj, toNat_lowerAscii, show '+'.toNat = 43 from rfl]
  split <;> omega

theorem isBreak_lowerAscii (c : Char) : Token.isBreak (lowerAscii c) = Token.isBreak c := by
  have key (d : Char) : Token.isBreak d = true ↔ d.toNat = 32 ∨ d.toNat = 40 ∨ d.toNat = 41 := by
    simp only [Token.isBreak, Token.isParen, Bool.or_eq_true, beq_iff_eq, ← Char.toNat_inj]
    rfl
  rw [Bool.eq_iff_iff, key, key, toNat_lowerAscii]
  split <;> omega

theorem lowerFrom_of_isAscii : ∀ (seen t : Text), t.isAscii = true → lowerFrom seen t = t.folded
  | _, [], _ => rfl
  | seen, c :: t, h => by
    simp only [isAscii, List.all_cons, Bool.and_eq_true, decide_eq_true_eq] at h
    rw [lowerFrom, lowerChar, if_pos h.1, lowerFrom_of_isAscii (c :: seen) t h.2]
    rfl

theorem lower_of_isAscii {t : Text} (h : t.isAscii = true) : t.lower = t.folded :=
  lowerFrom_of_isAscii [] t h

theorem isAscii_folded (t : Text) : t.folded.isAscii = t.isAscii := by
  simp only [isAscii, folded, List.all_map, Function.comp_def, toNat_lowerAscii_lt_iff]

/-- **A text that differs from an ASCII text only in letter case is an ASCII text.** -/
theorem isAscii_of_folded_eq {s t : Text} (h : s.folded = t.folded) (hs : s.isAscii = true) : t.isAscii = true := by
  rw [← isAscii_folded, ← h, isAscii_folded, hs]

theorem folded_append (s t : Text) : (s ++ t).folded = s.folded ++ t.folded := List.map_append

/-! ## Lower case -/

theorem lowerAscii_of_le {c : Char} (h : 128 ≤ c.toNat) : lowerAscii c = c := by
  rw [← Char.toNat_inj, toNat_lowerAscii]
  split <;> omega

theorem lowerAscii_lowerAscii (c : Char) : lowerAscii (lowerAscii c) = lowerAscii c := by
  rw [← Char.toNat_inj, toNat_lowerAscii (lowerAscii c)]
  refine if_neg ?_
  rw [toNat_lowerAscii]
  split <;> omega

/-- A set that has both an ASCII capital and its small letter, or neither, does not tell them apart. -/
theorem mem_lowerAscii {rs : Ranges} (h : ∀ n < 26, rs.mem (n + 97) = rs.mem (n + 65)) (c : Char) :
    rs.mem (lowerAscii c).toNat = rs.mem c.toNat := by
  rw [toNat_lowerAscii]
  split
  · obtain ⟨n, hn⟩ := Nat.exists_eq_add_of_le' (show 65 ≤ c.toNat by omega)
    rw [hn]
    exact h n (by omega)
  · rfl

theorem cased_lowerAscii (c : Char) : cased.mem (lowerAscii c).toNat = cased.mem c.toNat :=
  mem_lowerAscii (by decide) c

theorem caseIgnorable_lowerAscii (c : Char) : caseIgnorable.mem (lowerAscii c).toNat = caseIgnorable.mem c.toNat :=
  mem_lowerAscii (by decide) c

/-- Whether a sigma stands at the end of a word does not depend on the case of ASCII letters around it. -/
theorem meetsCased_folded (t : Text) : meetsCased t.folded = meetsCased t := by
  have hdrop : t.folded.dropWhile (fun c => caseIgnorable.mem c.toNat) =
      (t.dropWhile fun c => caseIgnorable.mem c.toNat).map lowerAscii := by
    rw [folded, List.dropWhile_map]
    simp only [Function.comp_def, caseIgnorable_lowerAscii]
  rw [meetsCased, meetsCased, hdrop]
  cases t.dropWhile fun c => caseIgnorable.mem c.toNat with
  | nil => rfl
  | cons c _ => exact cased_lowerAscii c

theorem lowerChar_folded (seen rest : Text) (c : Char) :
    lowerChar seen.folded (lowerAscii c) rest.folded = lowerChar seen c rest := by
  by_cases hc : c.toNat < 128
  · rw [lowerChar, lowerChar, if_pos ((toNat_lowerAscii_lt_iff c).2 hc), if_pos hc, lowerAscii_lowerAscii]
  · rw [lowerAscii_of_le (Nat.le_of_not_lt hc), lowerChar, lowerChar, meetsCased_folded, meetsCased_folded]

theorem lowerFrom_folded : ∀ seen t : Text, lowerFrom seen.folded t.folded = lowerFrom seen t
  | _, [] => rfl
  | seen, c :: t => by
    show lowerChar seen.folded (lowerAscii c) (folded t) ++ lowerFrom (folded (c :: seen)) (folded t) = _
    rw [lowerChar_folded, lowerFrom_folded (c :: seen) t, lowerFrom]

theorem lower_folded (t : Text) : t.folded.lower = t.lower := lowerFrom_folded [] t

/-- **The case of ASCII letters does not show in lower case**, whatever the other characters are. -/
theorem lower_eq_of_folded_eq {s t : Text} (h : s.folded = t.folded) : s.lower = t.lower := by
  rw [← lower_folded s, h, lower_folded]

end Text
end Licensing
