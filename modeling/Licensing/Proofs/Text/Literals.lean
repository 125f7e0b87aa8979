import Mathlib.Algebra.Group.Nat.Defs
import Licensing.Proofs.Json.Strings
import Licensing.Proofs.Text.Lines
import Licensing.Text.Printable
/-!
# Quoted texts are literals

A literal is a text between two equal quotes on one line, in which a backslash begins an escape.  Every quoted text is
one: it reads back as the text that was quoted, and the reader stops right behind it (`literal?_quoted`).  All of its
characters are printable, so it holds no end of a line of any kind (`printable_quoted`) and lines that are made of
quoted texts stay lines (`lines_flatMap`).
-/
namespace Licensing
namespace Text

/-! ## Reading literals -/

/-- The escapes of one letter, and what they stand for. -/
def plainEscapes : List (Char × Char) := [
  ('\\', '\\'), ('\'', '\''), ('"', '"'), ('a', '\x07'), ('b', '\x08'), ('f', '\x0c'), ('n', '\n'), ('r', '\r'),
  ('t', '\t'), ('v', '\x0b')]

/-- The letters of the escapes by a number, and how many hexadecimal digits follow each. -/
def hexEscapes : List (Char × Nat) := [('x', 2), ('u', 4), ('U', 8)]

def hexNumber? (ds : Text) : Option Nat :=
  ds.foldlM (fun n c => (Json.hexValue? c).map (n * 16 + ·)) 0

def isOctal (c : Char) : Bool := '0' ≤ c && c ≤ '7'

def octalNumber (ds : Text) : Nat := ds.foldl (fun n c => n * 8 + (c.toNat - 48)) 0

/-- The character of a number, with how many characters name it.  Half of a surrogate pair is no character. -/
def numbered? (n taken : Nat) : Option (Text × Nat) := if n.isValidChar then some ([Char.ofNat n], taken) else none

/-- What the escape behind a backslash stands for, and how many characters it takes there.  An escaped end of a line
is nothing, and a letter that begins no escape stands for itself behind its backslash.  The names of characters are not
known, so an escape by name is refused. -/
def escape? : Text → Option (Text × Nat)
  | [] => none
  | c :: t =>
    if c = '\r' && t.head? = some '\n' then some ([], 2)
    else if c = '\n' || c = '\r' then some ([], 1)
    else if c = 'N' then none
    else match plainEscapes.lookup c with
      | some d => some ([d], 1)
      | none =>
        match hexEscapes.lookup c with
        | some w =>
          if (t.take w).length = w then (hexNumber? (t.take w)).bind fun n => numbered? n (w + 1) else none
        | none =>
          if isOctal c then
            let ds := ((c :: t).take 3).takeWhile isOctal
            numbered? (octalNumber ds) ds.length
          else some (['\\', c], 1)

/-- The rest of a literal up to its closing quote, and what stands behind it.  The first `skipped` characters belong to
an escape that has been read. -/
def literalRest? (mark : Char) : Nat → Text → Option (Text × Text)
  | _, [] => none
  | skipped + 1, _ :: t => literalRest? mark skipped t
  | 0, c :: t =>
    if c = mark then some ([], t)
    else if c = '\n' || c = '\r' then none
    else if c = '\\' then
      match escape? t with
      | none => none
      | some (s, taken) => (literalRest? mark taken t).map fun p => (s ++ p.1, p.2)
    else (literalRest? mark 0 t).map fun p => (c :: p.1, p.2)

/-- The text that a literal stands for, and what stands behind it.  Three quotes would open a literal of several lines,
which is refused. -/
def literal? : Text → Option (Text × Text)
  | [] => none
  | mark :: t =>
    if (mark = '\'' || mark = '"') && !startsWith t [mark, mark] then literalRest? mark 0 t else none

example : literal? "'\\101\\x42\\q\"', 'C'".toList = some ("AB\\q\"".toList, ", 'C'".toList) := by decide +kernel

/-! ## Escapes are read back -/

theorem length_hex : ∀ w n : Nat, (hex w n).length = w
  | 0, _ => rfl
  | w + 1, n => by rw [hex, List.length_append, length_hex w, List.length_singleton]

theorem foldlM_hex : ∀ w n m : Nat,
    (hex w n).foldlM (fun n c => (Json.hexValue? c).map (n * 16 + ·)) m = some (m * 16 ^ w + n % 16 ^ w)
  | 0, n, m => by simp [hex, Nat.mod_one]
  | w + 1, n, m => by
    have hdigit : Json.hexValue? (Nat.digitChar (n % 16)) = some (n % 16) :=
      Json.hexValue?_digitChar _ (Nat.mod_lt n (by decide))
    have hmod : n % 16 ^ (w + 1) = n % 16 + 16 * (n / 16 % 16 ^ w) := by rw [Nat.pow_succ', Nat.mod_mul]
    rw [hex, List.foldlM_append, foldlM_hex w (n / 16) m, hmod, Nat.pow_succ]
    simp only [bind, Option.bind_some, List.foldlM_cons, List.foldlM_nil, hdigit, Option.map_some, pure,
      Option.some.injEq, Nat.add_mul]
    rw [Nat.mul_assoc, Nat.mul_comm 16 (n / 16 % 16 ^ w)]
    omega

theorem hexNumber?_hex {w n : Nat} (h : n < 16 ^ w) : hexNumber? (hex w n) = some n := by
  rw [hexNumber?, foldlM_hex, Nat.zero_mul, Nat.zero_add, Nat.mod_eq_of_lt h]

/-- **An escape by number is read back.** -/
theorem escape?_hex {letter : Char} {w : Nat} {c : Char} (hl : (letter, w) ∈ hexEscapes)
    (hc : c.toNat < 16 ^ w) (t : Text) : escape? (letter :: (hex w c.toNat ++ t)) = some ([c], w + 1) := by
  have htake : (hex w c.toNat ++ t).take w = hex w c.toNat := List.take_left' (length_hex w _)
  have hvalid : c.toNat.isValidChar := c.valid
  have hnumber : numbered? c.toNat (w + 1) = some ([c], w + 1) := by
    rw [numbered?, if_pos hvalid, Char.ofNat_toNat]
  have hletter : ∀ p ∈ hexEscapes, p.1 ≠ '\r' ∧ p.1 ≠ '\n' ∧ p.1 ≠ 'N' ∧ plainEscapes.lookup p.1 = none ∧
      hexEscapes.lookup p.1 = some p.2 := by decide
  obtain ⟨hr, hn, hN, hplain, hwidth⟩ := hletter _ hl
  simp only [escape?, hr, hn, hN, decide_false, Bool.false_and, Bool.or_false, Bool.false_eq_true, if_false, hplain,
    hwidth, htake, length_hex, if_true, hexNumber?_hex hc, Option.bind_some, hnumber]

/-- **An escape of one letter is read back.** -/
theorem escape?_plain {letter c : Char} (h : (letter, c) ∈ plainEscapes) (t : Text) :
    escape? (letter :: t) = some ([c], 1) := by
  have hletter : ∀ p ∈ plainEscapes, p.1 ≠ '\r' ∧ p.1 ≠ '\n' ∧ p.1 ≠ 'N' ∧ plainEscapes.lookup p.1 = some p.2 := by
    decide
  obtain ⟨hr, hn, hN, hplain⟩ := hletter _ h
  simp only [escape?, hr, hn, hN, decide_false, Bool.false_and, Bool.or_false, Bool.false_eq_true, if_false, hplain]

/-! ## Literals are read back -/

theorem literalRest?_skip (mark : Char) (t : Text) : ∀ u : Text,
    literalRest? mark u.length (u ++ t) = literalRest? mark 0 t
  | [] => rfl
  | c :: u => by
    rw [List.length_cons, List.cons_append, literalRest?]
    exact literalRest?_skip mark t u

/-- A backslash with the escape behind it gives what the escape stands for. -/
theorem literalRest?_escape {mark : Char} (hmark : mark ≠ '\\') {s u : Text} (t : Text)
    (h : escape? (u ++ t) = some (s, u.length)) :
    literalRest? mark 0 ('\\' :: (u ++ t)) = (literalRest? mark 0 t).map fun p => (s ++ p.1, p.2) := by
  rw [literalRest?, if_neg hmark.symm, if_neg (by decide), if_pos rfl, h]
  simp only [literalRest?_skip]

/-- A character that is no quote, no backslash and no end of a line stands for itself. -/
theorem literalRest?_cons {mark c : Char} (hmark : c ≠ mark) (hslash : c ≠ '\\') (hlf : c ≠ '\n') (hcr : c ≠ '\r')
    (t : Text) : literalRest? mark 0 (c :: t) = (literalRest? mark 0 t).map fun p => (c :: p.1, p.2) := by
  simp only [literalRest?, hmark, hslash, hlf, hcr, decide_false, Bool.or_false, Bool.false_eq_true, if_false]

/-- **Every character is read back as it was quoted.** -/
theorem literalRest?_quotedChar {mark : Char} (hmark : mark = '\'' ∨ mark = '"') (c : Char) (t : Text) :
    literalRest? mark 0 (quotedChar mark c ++ t) = (literalRest? mark 0 t).map fun p => (c :: p.1, p.2) := by
  have hslash : mark ≠ '\\' := by rcases hmark with rfl | rfl <;> decide
  have hplain {letter : Char} (h : (letter, c) ∈ plainEscapes) :
      literalRest? mark 0 (['\\', letter] ++ t) = (literalRest? mark 0 t).map fun p => (c :: p.1, p.2) :=
    literalRest?_escape hslash (u := [letter]) t (escape?_plain h t)
  have hhex {letter : Char} {w : Nat} (hl : (letter, w) ∈ hexEscapes) (hc : c.toNat < 16 ^ w) :
      literalRest? mark 0 ('\\' :: letter :: hex w c.toNat ++ t) =
        (literalRest? mark 0 t).map fun p => (c :: p.1, p.2) := by
    refine literalRest?_escape hslash (s := [c]) (u := letter :: hex w c.toNat) t ?_
    rw [List.cons_append, escape?_hex hl hc, List.length_cons, length_hex]
  unfold quotedChar
  split
  · rename_i h
    simp only [Bool.or_eq_true, decide_eq_true_eq] at h
    have : c = '\\' ∨ c = '\'' ∨ c = '"' := by
      rcases h with rfl | rfl
      · exact .inl rfl
      · exact .inr hmark
    rcases this with rfl | rfl | rfl <;> exact hplain (by decide)
  rename_i hself
  simp only [Bool.or_eq_true, decide_eq_true_eq, not_or] at hself
  split
  · subst c; exact hplain (by decide)
  split
  · subst c; exact hplain (by decide)
  split
  · subst c; exact hplain (by decide)
  rename_i hlf hcr
  split
  · exact literalRest?_cons hself.2 hself.1 hlf hcr t
  split
  · exact hhex (by decide) (by omega)
  split
  · exact hhex (by decide) (by omega)
  · have hvalid : c.toNat.isValidChar := c.valid
    exact hhex (by decide) (by unfold Nat.isValidChar at hvalid; omega)

theorem literalRest?_flatMap {mark : Char} (hmark : mark = '\'' ∨ mark = '"') (rest : Text) : ∀ t : Text,
    literalRest? mark 0 (t.flatMap (quotedChar mark) ++ mark :: rest) = some (t, rest)
  | [] => by rw [List.flatMap_nil, List.nil_append, literalRest?, if_pos rfl]
  | c :: t => by
    rw [List.flatMap_cons, List.append_assoc, literalRest?_quotedChar hmark, literalRest?_flatMap hmark rest t]
    rfl

theorem quoteMark_eq (t : Text) : quoteMark t = '\'' ∨ quoteMark t = '"' := by
  unfold quoteMark
  split
  · exact .inr rfl
  · exact .inl rfl

/-- What is quoted never begins with the quote itself: that one would be escaped. -/
theorem head?_quotedChar_ne {mark : Char} (hmark : mark = '\'' ∨ mark = '"') (c : Char) (t : Text) :
    (quotedChar mark c ++ t).head? ≠ some mark := by
  have hslash : mark ≠ '\\' := by rcases hmark with rfl | rfl <;> decide
  unfold quotedChar
  split
  · simp [hslash.symm]
  rename_i hself
  simp only [Bool.or_eq_true, decide_eq_true_eq, not_or] at hself
  repeat' split
  all_goals simp [hslash.symm, hself.2]

theorem startsWith_cons_eq_false {c : Char} {t : Text} (h : t.head? ≠ some c) (lead : Text) :
    startsWith t (c :: lead) = false := by
  cases t with
  | nil => rfl
  | cons d t =>
    have hd : c ≠ d := fun hd => h (by rw [hd]; rfl)
    simp only [startsWith, after?, hd, if_false, Option.isSome_none]

/-- Behind the opening quote of a quoted text there is no pair of quotes, unless a quote follows the empty text. -/
theorem startsWith_marks {mark : Char} (hmark : mark = '\'' ∨ mark = '"') {rest : Text} (h : rest.head? ≠ some mark) :
    ∀ t : Text, startsWith (t.flatMap (quotedChar mark) ++ mark :: rest) [mark, mark] = false
  | [] => by
    have hrest : startsWith rest [mark] = false := startsWith_cons_eq_false h []
    rw [List.flatMap_nil, List.nil_append, startsWith, after?, if_pos rfl]
    exact hrest
  | c :: t => by
    rw [List.flatMap_cons, List.append_assoc]
    exact startsWith_cons_eq_false (head?_quotedChar_ne hmark c _) _

/-- **A quoted text is a literal of the text**, behind which the reader stops.  A third quote behind the empty text
would open a literal of several lines. -/
theorem literal?_quoted (t : Text) {rest : Text} (h : rest.head? ≠ some (quoteMark t)) :
    literal? (quoted t ++ rest) = some (t, rest) := by
  have hmark := quoteMark_eq t
  have hrest : quoted t ++ rest = quoteMark t :: (t.flatMap (quotedChar (quoteMark t)) ++ quoteMark t :: rest) := by
    simp only [quoted, List.cons_append, List.append_assoc, List.nil_append]
  have hopens : (quoteMark t = '\'' || quoteMark t = '"') = true := by simpa using hmark
  rw [hrest, literal?, hopens, startsWith_marks hmark h t, literalRest?_flatMap hmark rest t]
  rfl

/-! ## Quoted texts are printable -/

/-- A text of printable characters, so one without an end of a line. -/
def Printable (t : Text) : Prop := ∀ c ∈ t, isPrintable c = true

instance (t : Text) : Decidable (Printable t) := decidable_of_iff (t.all isPrintable = true) List.all_eq_true

theorem printable_append {s t : Text} : Printable (s ++ t) ↔ Printable s ∧ Printable t := List.forall_mem_append

theorem printable_cons {c : Char} {t : Text} : Printable (c :: t) ↔ isPrintable c = true ∧ Printable t :=
  List.forall_mem_cons

theorem printable_hex (w n : Nat) : Printable (hex w n) := Json.forall_mem_hex (by decide +kernel) w n

theorem printable_quotedChar {mark : Char} (hmark : mark = '\'' ∨ mark = '"') (c : Char) :
    Printable (quotedChar mark c) := by
  have hescape {letter : Char} {t : Text} (hl : Printable ['\\', letter]) (ht : Printable t) :
      Printable ('\\' :: letter :: t) := printable_append.2 ⟨hl, ht⟩
  unfold quotedChar
  split
  · rename_i h
    simp only [Bool.or_eq_true, decide_eq_true_eq] at h
    rcases h with rfl | rfl
    · decide +kernel
    · rcases hmark with rfl | rfl <;> decide +kernel
  split
  · decide +kernel
  split
  · decide +kernel
  split
  · decide +kernel
  split
  · rename_i h
    exact printable_cons.2 ⟨h, List.forall_mem_nil _⟩
  repeat' split
  all_goals exact hescape (by decide +kernel) (printable_hex _ _)

/-- **Every character of a quoted text is printable.** -/
theorem printable_quoted (t : Text) : Printable (quoted t) := by
  have hmark := quoteMark_eq t
  have hends : Printable [quoteMark t] := by rcases hmark with h | h <;> rw [h] <;> decide +kernel
  refine printable_append (s := _ :: _).2 ⟨printable_append (s := [_]).2 ⟨hends, fun c hc => ?_⟩, hends⟩
  obtain ⟨d, _, hd⟩ := List.mem_flatMap.1 hc
  exact printable_quotedChar hmark d c hd

/-! ## Printable lines -/

theorem lines_append_lf {l : Text} (h : Printable l) (t : Text) : lines (l ++ '\n' :: t) = l :: lines t := by
  refine lines_append (lines_lf t) fun c hc => ⟨?_, ?_⟩
  · rintro rfl
    exact absurd (h _ hc) (by decide +kernel)
  · rintro rfl
    exact absurd (h _ hc) (by decide +kernel)

/-- **Printable lines with their ends are a text of just these lines.** -/
theorem lines_flatMap : ∀ {ls : List Text}, (∀ l ∈ ls, Printable l) → lines (ls.flatMap (· ++ ['\n'])) = ls
  | [], _ => rfl
  | l :: ls, h => by
    obtain ⟨hl, hls⟩ := List.forall_mem_cons.1 h
    rw [List.flatMap_cons, List.append_assoc, List.singleton_append, lines_append_lf hl, lines_flatMap hls]

end Text
end Licensing
