import Licensing.Json.Reader
import Licensing.Json.Writer
/-!
# Strings in JSON

A string is read back as it was written, within ASCII or not: every escape takes one step of the reader, which gives the
character that was escaped (`stringStep_escape`).  A character beyond the first plane is written as two surrogates.
-/
namespace Licensing
namespace Json

open Surrogate (isHigh isLow)

theorem Dialect.ofChar_strict (c : Char) : Dialect.strict.ofChar c = c := rfl

theorem hexValue?_digitChar : ∀ d < 16, hexValue? (Nat.digitChar d) = some d := by decide

/-- What is true of the hexadecimal digits is true of every character of a number that is written with them. -/
theorem forall_mem_hex {p : Char → Prop} (h : ∀ d < 16, p (Nat.digitChar d)) : ∀ w n : Nat, ∀ c ∈ Text.hex w n, p c
  | 0, _ => List.forall_mem_nil p
  | w + 1, n => by
    rw [Text.hex, List.forall_mem_append]
    exact ⟨forall_mem_hex h w _, List.forall_mem_singleton.2 (h _ (Nat.mod_lt n (by decide)))⟩

/-- **Four hexadecimal digits are read back**, unless they end the text. -/
theorem unit?_hex {n : Nat} (h : n < 0x10000) {t : Text} (ht : t ≠ []) :
    unit? .strict (Text.hex 4 n ++ t) = some (n, t) := by
  have hd (m : Nat) : (Dialect.strict.char? (Nat.digitChar (m % 16))).bind hexValue? = some (m % 16) :=
    hexValue?_digitChar _ (Nat.mod_lt m (by decide))
  cases t with
  | nil => exact absurd rfl ht
  | cons c t =>
    simp only [Text.hex, List.nil_append, List.cons_append, unit?, hd, bind, Option.bind_some, pure, Option.some.injEq,
      Prod.mk.injEq, and_true]
    omega

theorem isHigh_eq_true_iff {n : Nat} : isHigh n = true ↔ 0xD800 ≤ n ∧ n < 0xDC00 := by simp [isHigh]

theorem isLow_eq_true_iff {n : Nat} : isLow n = true ↔ 0xDC00 ≤ n ∧ n < 0xE000 := by simp [isLow]

section Escapes

variable {κ : Type} {d : Dialect κ} {n : Nat} {t u : List κ}

theorem unitEscape_one (hu : unit? d t = some (n, u)) (hh : isHigh n = false) (hl : isLow n = false) (place : List κ) :
    unitEscape d place t = .ok (d.ofChar (Char.ofNat n), u) := by
  unfold unitEscape
  rw [hu]
  simp only [hh, hl, Bool.false_eq_true, if_false]

/-- The escape of a high surrogate is read with that of the low one behind it. -/
theorem unitEscape_two {m : Nat} {a b : κ} {r : List κ} (hu : unit? d t = some (m, a :: b :: u)) (hm : isHigh m = true)
    (ha : d.char? a = some '\\') (hb : d.char? b = some 'u') (hr : unit? d u = some (n, r)) (hn : isLow n = true)
    (place : List κ) : unitEscape d place t = .ok (d.ofChar (Surrogate.join m n), r) := by
  unfold unitEscape
  rw [hu]
  simp only [hm, ha, hb, hr, hn, decide_true, Bool.and_true, if_true]

end Escapes

/-- **The units of a character are read back**, unless they end the text. -/
theorem unitEscape_units (c : Char) : ∃ u, units c.toNat = '\\' :: 'u' :: u ∧
    ∀ (place : Text) {t : Text}, t ≠ [] → unitEscape .strict place (u ++ t) = .ok (c, t) := by
  have hvalid : c.toNat < 0xD800 ∨ 0xDFFF < c.toNat ∧ c.toNat < 0x110000 := c.valid
  have hof : Char.ofNat c.toNat = c := Char.ofNat_toNat c
  generalize c.toNat = n at hvalid hof
  unfold units
  split
  · rename_i hn
    have hh : isHigh n = false := by rw [← Bool.not_eq_true, isHigh_eq_true_iff]; omega
    have hl : isLow n = false := by rw [← Bool.not_eq_true, isLow_eq_true_iff]; omega
    refine ⟨Text.hex 4 n, rfl, fun place t ht => ?_⟩
    rw [unitEscape_one (unit?_hex hn ht) hh hl, hof, Dialect.ofChar_strict]
  · rename_i hn
    have hhi : isHigh (0xD800 + (n - 0x10000) / 0x400) = true := isHigh_eq_true_iff.2 (by omega)
    have hlo : isLow (0xDC00 + (n - 0x10000) % 0x400) = true := isLow_eq_true_iff.2 (by omega)
    have hsum : 0x10000 + (0xD800 + (n - 0x10000) / 0x400 - 0xD800) * 0x400 +
        (0xDC00 + (n - 0x10000) % 0x400 - 0xDC00) = n := by omega
    refine ⟨Text.hex 4 (0xD800 + (n - 0x10000) / 0x400) ++ hexUnit (0xDC00 + (n - 0x10000) % 0x400), ?_,
      fun place t ht => ?_⟩
    · simp only [hexUnit, List.cons_append]
    · have hlow : unit? .strict (Text.hex 4 (0xDC00 + (n - 0x10000) % 0x400) ++ t) = some (_, t) :=
        unit?_hex (by omega) ht
      rw [List.append_assoc, hexUnit, List.cons_append, List.cons_append,
        unitEscape_two (unit?_hex (by omega) (List.cons_ne_nil _ _)) hhi rfl rfl hlow hlo, Dialect.ofChar_strict,
        Surrogate.join, hsum, hof]

theorem stringStep_of_plain {κ : Type} {d : Dialect κ} {k : κ} {c : Char} (hk : d.char? k = some c) (hquote : c ≠ '"')
    (hslash : c ≠ '\\') (whole t : List κ) : stringStep d whole (k :: t) =
      if c.toNat < 0x20 then .error (.controlCharacter, k :: t) else .ok (some k, t) := by
  rw [stringStep, hk]
  split
  · rename_i h
    exact absurd (Option.some.inj h) hquote
  · rename_i h
    exact absurd (Option.some.inj h) hslash
  · simp only [Option.any_some, decide_eq_true_eq]

/-- **An escaped character is read back in one step.** -/
theorem stringStep_escape (whole : Text) (ascii : Bool) (c : Char) {t : Text} (ht : t ≠ []) :
    stringStep .strict whole (escape ascii c ++ t) = .ok (some c, t) := by
  unfold escape
  split
  · subst c; rfl
  split
  · subst c; rfl
  split
  · subst c; rfl
  split
  · subst c; rfl
  split
  · subst c; rfl
  split
  · rename_i h
    obtain rfl : c = Char.ofNat 8 := by rw [← h, Char.ofNat_toNat]
    rfl
  split
  · rename_i h
    obtain rfl : c = Char.ofNat 12 := by rw [← h, Char.ofNat_toNat]
    rfl
  split
  · obtain ⟨u, hu, hc⟩ := unitEscape_units c
    have hescaped : escaped .strict whole ('\\' :: 'u' :: (u ++ t)) ('u' :: (u ++ t)) = .ok (c, t) := hc _ ht
    rw [hu, List.cons_append, List.cons_append]
    exact congrArg (Except.map fun p => (some p.1, p.2)) hescaped
  · rename_i hquote hslash _ _ _ _ _ hplain
    have h20 : ¬ c.toNat < 0x20 := fun h => hplain (by simp [h])
    rw [List.singleton_append, stringStep_of_plain (d := .strict) (k := c) rfl hquote hslash, if_neg h20]

theorem stringRest_flatMap (whole rest : Text) (ascii : Bool) : ∀ {fuel : Nat} {t : Text}, t.length < fuel →
    stringRest .strict whole fuel (t.flatMap (escape ascii) ++ '"' :: rest) = .ok (t, rest)
  | fuel + 1, [], _ => rfl
  | fuel + 1, c :: t, h => by
    rw [List.flatMap_cons, List.append_assoc, stringRest, stringStep_escape whole ascii c (by simp)]
    simp only [bind, Except.bind, stringRest_flatMap whole rest ascii (Nat.lt_of_succ_lt_succ h)]
    rfl

/-- **A string is read back as it was written**, with as much fuel as it has characters and one more. -/
theorem string_quote (ascii : Bool) {fuel : Nat} {t : Text} (h : t.length < fuel) (rest : Text) :
    string .strict fuel (quote ascii t ++ rest) = .ok (t, rest) := by
  show stringRest .strict _ fuel (t.flatMap (escape ascii) ++ ['"'] ++ rest) = _
  rw [List.append_assoc]
  exact stringRest_flatMap _ rest ascii h

theorem length_escape_pos (ascii : Bool) (c : Char) : 0 < (escape ascii c).length := by
  unfold escape units hexUnit
  repeat' split
  all_goals simp

theorem length_le_length_flatMap (ascii : Bool) : ∀ t : Text, t.length ≤ (t.flatMap (escape ascii)).length
  | [] => Nat.le_refl 0
  | c :: t => by
    have := length_escape_pos ascii c
    have := length_le_length_flatMap ascii t
    rw [List.flatMap_cons, List.length_append, List.length_cons]
    omega

theorem length_quote (ascii : Bool) (t : Text) : t.length + 2 ≤ (quote ascii t).length := by
  have := length_le_length_flatMap ascii t
  rw [quote, List.length_append, List.length_cons, List.length_singleton]
  omega

end Json
end Licensing
