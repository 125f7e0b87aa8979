import Licensing.Proofs.Text.Utf8
/-!
# Decoding undoes encoding

The decoder reads a character exactly where the bytes are those that the character is encoded by
(`pieces_eq_scalar_iff`).  So the characters in front of the first damage are those of the longest beginning of the
bytes that is an encoded text.
-/
namespace Licensing
namespace Utf8

/-! ## The bytes of one character -/

/-- A byte that can stand inside a character. -/
def IsTail (b : UInt8) : Prop := 0x80 ≤ b.toNat ∧ b.toNat ≤ 0xBF

/-- **The bytes of a code point**: the table of well-formed sequences, by their length. -/
inductive Spells : Bytes → Nat → Prop
  | one {b : UInt8} {v : Nat} (hb : b.toNat < 0x80) (hv : v = b.toNat) : Spells [b] v
  | two {b c : UInt8} {v : Nat} (hb : 0xC2 ≤ b.toNat ∧ b.toNat < 0xE0) (hc : IsTail c)
    (hv : v = (b.toNat - 0xC0) * 64 + (c.toNat - 0x80)) : Spells [b, c] v
  /-- No overlong form and no surrogate. -/
  | three {b c d : UInt8} {v : Nat} (hb : 0xE0 ≤ b.toNat ∧ b.toNat < 0xF0) (hc : IsTail c)
    (hlong : b.toNat = 0xE0 → 0xA0 ≤ c.toNat) (hhalf : b.toNat = 0xED → c.toNat ≤ 0x9F) (hd : IsTail d)
    (hv : v = ((b.toNat - 0xE0) * 64 + (c.toNat - 0x80)) * 64 + (d.toNat - 0x80)) : Spells [b, c, d] v
  /-- No overlong form and nothing above U+10FFFF. -/
  | four {b c d e : UInt8} {v : Nat} (hb : 0xF0 ≤ b.toNat ∧ b.toNat < 0xF5) (hc : IsTail c)
    (hlong : b.toNat = 0xF0 → 0x90 ≤ c.toNat) (hmax : b.toNat = 0xF4 → c.toNat ≤ 0x8F) (hd : IsTail d) (he : IsTail e)
    (hv : v = (((b.toNat - 0xF0) * 64 + (c.toNat - 0x80)) * 64 + (d.toNat - 0x80)) * 64 + (e.toNat - 0x80)) :
    Spells [b, c, d, e] v

theorem Spells.isValidChar {xs : Bytes} {v : Nat} (h : Spells xs v) : v.isValidChar := by
  unfold Nat.isValidChar
  cases h with
  | one hb hv => omega
  | two hb hc hv =>
    unfold IsTail at hc
    omega
  | three hb hc hlong hhalf hd hv =>
    unfold IsTail at hc hd
    omega
  | four hb hc hlong hmax hd he hv =>
    unfold IsTail at hc hd he
    omega

theorem encodeChar_eq (c : Char) : String.utf8EncodeChar c =
    if c.toNat ≤ 0x7F then [UInt8.ofNat c.toNat]
    else if c.toNat ≤ 0x7FF then [UInt8.ofNat (c.toNat / 64 % 32 + 0xC0), UInt8.ofNat (c.toNat % 64 + 0x80)]
    else if c.toNat ≤ 0xFFFF then
      [UInt8.ofNat (c.toNat / 4096 % 16 + 0xE0), UInt8.ofNat (c.toNat / 64 % 64 + 0x80),
        UInt8.ofNat (c.toNat % 64 + 0x80)]
    else [UInt8.ofNat (c.toNat / 262144 % 8 + 0xF0), UInt8.ofNat (c.toNat / 4096 % 64 + 0x80),
      UInt8.ofNat (c.toNat / 64 % 64 + 0x80), UInt8.ofNat (c.toNat % 64 + 0x80)] := rfl

theorem eq_ofNat {n : Nat} {b : UInt8} (h : n = b.toNat) : b = UInt8.ofNat n := by rw [h, UInt8.ofNat_toNat]

/-- A code point has no other bytes than those it is encoded by. -/
theorem Spells.eq_encodeChar {xs : Bytes} {c : Char} (h : Spells xs c.toNat) : xs = String.utf8EncodeChar c := by
  rw [encodeChar_eq]
  generalize c.toNat = v at h
  cases h with
  | one hb hv => rw [if_pos (by omega), ← eq_ofNat hv]
  | two hb hc hv =>
    unfold IsTail at hc
    rw [if_neg (by omega), if_pos (by omega)]
    simp only [List.cons.injEq, and_true]
    exact ⟨eq_ofNat (by omega), eq_ofNat (by omega)⟩
  | three hb hc hlong hhalf hd hv =>
    unfold IsTail at hc hd
    rw [if_neg (by omega), if_neg (by omega), if_pos (by omega)]
    simp only [List.cons.injEq, and_true]
    exact ⟨eq_ofNat (by omega), eq_ofNat (by omega), eq_ofNat (by omega)⟩
  | four hb hc hlong hmax hd he hv =>
    unfold IsTail at hc hd he
    rw [if_neg (by omega), if_neg (by omega), if_neg (by omega)]
    simp only [List.cons.injEq, and_true]
    exact ⟨eq_ofNat (by omega), eq_ofNat (by omega), eq_ofNat (by omega), eq_ofNat (by omega)⟩

theorem toNat_ofNat_of_lt {n : Nat} (h : n < 0x100) : (UInt8.ofNat n).toNat = n := UInt8.toNat_ofNat_of_lt' h

theorem isTail_ofNat {n : Nat} : IsTail (UInt8.ofNat (n % 64 + 0x80)) := by
  unfold IsTail
  rw [toNat_ofNat_of_lt (by omega)]
  omega

/-- A code point that is a character has the bytes it is encoded by. -/
theorem spells_encodeChar (c : Char) : Spells (String.utf8EncodeChar c) c.toNat := by
  have hvalid : c.toNat < 0xD800 ∨ 0xDFFF < c.toNat ∧ c.toNat < 0x110000 := c.valid
  rw [encodeChar_eq]
  generalize c.toNat = v at hvalid
  have tail {n : Nat} : (UInt8.ofNat (n % 64 + 0x80)).toNat = n % 64 + 0x80 := toNat_ofNat_of_lt (by omega)
  split
  · have hb := toNat_ofNat_of_lt (n := v) (by omega)
    exact .one (by omega) hb.symm
  split
  · have hb := toNat_ofNat_of_lt (n := v / 64 % 32 + 0xC0) (by omega)
    exact .two (by omega) isTail_ofNat (by rw [tail]; omega)
  split
  · have hb := toNat_ofNat_of_lt (n := v / 4096 % 16 + 0xE0) (by omega)
    exact .three (by omega) isTail_ofNat (by rw [tail]; omega) (by rw [tail]; omega) isTail_ofNat
      (by rw [tail, tail]; omega)
  · have hb := toNat_ofNat_of_lt (n := v / 262144 % 8 + 0xF0) (by omega)
    exact .four (by omega) isTail_ofNat (by rw [tail]; omega) (by rw [tail]; omega) isTail_ofNat isTail_ofNat
      (by rw [tail, tail, tail]; omega)

/-! ## A character that is read -/

/-- The character that is begun, carried on by a byte. -/
def Pending.next (p : Pending) (b : UInt8) (k : Nat) : Pending :=
  ⟨p.read ++ [b], p.value * 64 + (b.toNat - 0x80), k, 0x80, 0xBF⟩

variable {p : Pending} {bs : Bytes} {c : Char} {n : Nat} {ps : List Piece}

theorem piecesFrom_last {b : UInt8} (hm : p.more = 0) (hb : p.lo ≤ b.toNat ∧ b.toNat ≤ p.hi) :
    piecesFrom (.inside p) (b :: bs) =
      .scalar (Char.ofNat (p.value * 64 + (b.toNat - 0x80))) (p.read.length + 1) :: pieces bs := by
  rw [piecesFrom, step, if_pos (by simpa using hb), hm]
  rfl

theorem piecesFrom_more {b : UInt8} {k : Nat} (hm : p.more = k + 1) (hb : p.lo ≤ b.toNat ∧ b.toNat ≤ p.hi) :
    piecesFrom (.inside p) (b :: bs) = piecesFrom (.inside (p.next b k)) bs := by
  rw [piecesFrom, step, if_pos (by simpa using hb), hm]
  rfl

/-- A character is read only if the next byte is in its bounds. -/
theorem exists_cons_of_inside (h : piecesFrom (.inside p) bs = .scalar c n :: ps) :
    ∃ (b : UInt8) (rest : Bytes), bs = b :: rest ∧ p.lo ≤ b.toNat ∧ b.toNat ≤ p.hi := by
  cases bs with
  | nil => cases h
  | cons b rest =>
    refine ⟨b, rest, rfl, Decidable.byContradiction fun hb => ?_⟩
    rw [piecesFrom, step, if_neg (by simpa using hb)] at h
    cases h

theorem piecesFrom_last_iff (hm : p.more = 0) : piecesFrom (.inside p) bs = .scalar c n :: ps ↔
    ∃ (b : UInt8) (rest : Bytes), bs = b :: rest ∧ (p.lo ≤ b.toNat ∧ b.toNat ≤ p.hi) ∧
      Char.ofNat (p.value * 64 + (b.toNat - 0x80)) = c ∧ p.read.length + 1 = n ∧ pieces rest = ps := by
  constructor
  · intro h
    obtain ⟨b, rest, rfl, hb⟩ := exists_cons_of_inside h
    rw [piecesFrom_last hm hb] at h
    obtain ⟨hchar, hps⟩ := List.cons.inj h
    obtain ⟨hc, hn⟩ := Piece.scalar.inj hchar
    exact ⟨b, rest, rfl, hb, hc, hn, hps⟩
  · rintro ⟨b, rest, rfl, hb, rfl, rfl, rfl⟩
    exact piecesFrom_last hm hb

theorem piecesFrom_more_iff {k : Nat} (hm : p.more = k + 1) : piecesFrom (.inside p) bs = .scalar c n :: ps ↔
    ∃ (b : UInt8) (rest : Bytes), bs = b :: rest ∧ (p.lo ≤ b.toNat ∧ b.toNat ≤ p.hi) ∧
      piecesFrom (.inside (p.next b k)) rest = .scalar c n :: ps := by
  constructor
  · intro h
    obtain ⟨b, rest, rfl, hb⟩ := exists_cons_of_inside h
    exact ⟨b, rest, rfl, hb, piecesFrom_more hm hb ▸ h⟩
  · rintro ⟨b, rest, rfl, hb, h⟩
    exact (piecesFrom_more hm hb).trans h

/-- What a first byte begins, by the number of bytes that are to come. -/
theorem pieces_cons_eq_iff {b : UInt8} : pieces (b :: bs) = .scalar c n :: ps ↔
    (b.toNat < 0x80 ∧ Char.ofNat b.toNat = c ∧ 1 = n ∧ pieces bs = ps) ∨
    ((0xC2 ≤ b.toNat ∧ b.toNat < 0xE0) ∧
      piecesFrom (.inside ⟨[b], b.toNat - 0xC0, 0, 0x80, 0xBF⟩) bs = .scalar c n :: ps) ∨
    ((0xE0 ≤ b.toNat ∧ b.toNat < 0xF0) ∧
      piecesFrom (.inside ⟨[b], b.toNat - 0xE0, 1, if b.toNat = 0xE0 then 0xA0 else 0x80,
        if b.toNat = 0xED then 0x9F else 0xBF⟩) bs = .scalar c n :: ps) ∨
    ((0xF0 ≤ b.toNat ∧ b.toNat < 0xF5) ∧
      piecesFrom (.inside ⟨[b], b.toNat - 0xF0, 2, if b.toNat = 0xF0 then 0x90 else 0x80,
        if b.toNat = 0xF4 then 0x8F else 0xBF⟩) bs = .scalar c n :: ps) := by
  rw [pieces, piecesFrom, step, start]
  have hbad (rest : List Piece) : .damaged [b] .badStart :: rest ≠ .scalar c n :: ps := by simp
  by_cases h1 : b.toNat < 0x80
  · rw [if_pos h1, or_iff_left (by omega)]
    simp [h1, pieces, and_assoc]
  rw [if_neg h1, or_iff_right (fun h => h1 h.1)]
  by_cases h2 : b.toNat < 0xC2
  · rw [if_pos h2]
    exact iff_of_false (hbad _) (by omega)
  rw [if_neg h2]
  by_cases h3 : b.toNat < 0xE0
  · rw [if_pos h3, or_iff_left (by omega), and_iff_right (by omega)]
    rfl
  rw [if_neg h3, or_iff_right (by omega)]
  by_cases h4 : b.toNat < 0xF0
  · rw [if_pos h4, or_iff_left (by omega), and_iff_right (by omega)]
    rfl
  rw [if_neg h4, or_iff_right (by omega)]
  by_cases h5 : b.toNat < 0xF5
  · rw [if_pos h5, and_iff_right (by omega)]
    rfl
  · rw [if_neg h5]
    exact iff_of_false (hbad _) (by omega)

/-- The bounds of a second byte, which some first bytes make narrower. -/
theorem bounds_iff {k m x y lo hi : Nat} (hlo : 0x80 ≤ lo) (hhi : hi ≤ 0xBF) :
    (if k = x then lo else 0x80) ≤ m ∧ m ≤ (if k = y then hi else 0xBF) ↔
      (0x80 ≤ m ∧ m ≤ 0xBF) ∧ (k = x → lo ≤ m) ∧ (k = y → m ≤ hi) := by
  split <;> split <;> omega

/-- In each form the machine lives through the bytes of the character one by one, in both directions. -/
theorem pieces_eq_scalar_iff_spells : pieces bs = .scalar c n :: ps ↔
    ∃ xs rest : Bytes, bs = xs ++ rest ∧ Spells xs c.toNat ∧ xs.length = n ∧ pieces rest = ps := by
  constructor
  · intro h
    cases bs with
    | nil => cases h
    | cons a bs =>
      have read {xs : Bytes} {v : Nat} (hxs : Spells xs v) (hc : Char.ofNat v = c) : Spells xs c.toNat := by
        rw [← hc, toNat_ofNat_of_isValidChar hxs.isValidChar]
        exact hxs
      rcases pieces_cons_eq_iff.1 h with ⟨ha, hc, hn, hps⟩ | ⟨ha, h⟩ | ⟨ha, h⟩ | ⟨ha, h⟩
      · exact ⟨[a], bs, rfl, read (.one ha rfl) hc, hn, hps⟩
      · obtain ⟨b, rest, rfl, hb, hc, hn, hps⟩ := (piecesFrom_last_iff rfl).1 h
        exact ⟨[a, b], rest, rfl, read (.two ha hb rfl) hc, hn, hps⟩
      · obtain ⟨b, bs, rfl, hb, h⟩ := (piecesFrom_more_iff rfl).1 h
        obtain ⟨d, rest, rfl, hd, hc, hn, hps⟩ := (piecesFrom_last_iff rfl).1 h
        obtain ⟨hb, hlong, hhalf⟩ := (bounds_iff (by decide) (by decide)).1 hb
        exact ⟨[a, b, d], rest, rfl, read (.three ha hb hlong hhalf hd rfl) hc, hn, hps⟩
      · obtain ⟨b, bs, rfl, hb, h⟩ := (piecesFrom_more_iff rfl).1 h
        obtain ⟨d, bs, rfl, hd, h⟩ := (piecesFrom_more_iff rfl).1 h
        obtain ⟨e, rest, rfl, he, hc, hn, hps⟩ := (piecesFrom_last_iff rfl).1 h
        obtain ⟨hb, hlong, hmax⟩ := (bounds_iff (by decide) (by decide)).1 hb
        exact ⟨[a, b, d, e], rest, rfl, read (.four ha hb hlong hmax hd he rfl) hc, hn, hps⟩
  · rintro ⟨xs, rest, rfl, hxs, rfl, rfl⟩
    have hchar : Char.ofNat c.toNat = c := Char.ofNat_toNat c
    generalize c.toNat = v at hxs hchar
    cases hxs with
    | one ha hv =>
      rw [hv] at hchar
      exact pieces_cons_eq_iff.2 (.inl ⟨ha, hchar, rfl, rfl⟩)
    | two ha hb hv =>
      rw [hv] at hchar
      refine pieces_cons_eq_iff.2 (.inr (.inl ⟨ha, ?_⟩))
      exact (piecesFrom_last_iff rfl).2 ⟨_, rest, rfl, hb, hchar, rfl, rfl⟩
    | three ha hb hlong hhalf hd hv =>
      rw [hv] at hchar
      refine pieces_cons_eq_iff.2 (.inr (.inr (.inl ⟨ha, ?_⟩)))
      refine (piecesFrom_more_iff rfl).2 ⟨_, _, rfl, (bounds_iff (by decide) (by decide)).2 ⟨hb, hlong, hhalf⟩, ?_⟩
      exact (piecesFrom_last_iff rfl).2 ⟨_, rest, rfl, hd, hchar, rfl, rfl⟩
    | four ha hb hlong hmax hd he hv =>
      rw [hv] at hchar
      refine pieces_cons_eq_iff.2 (.inr (.inr (.inr ⟨ha, ?_⟩)))
      refine (piecesFrom_more_iff rfl).2 ⟨_, _, rfl, (bounds_iff (by decide) (by decide)).2 ⟨hb, hlong, hmax⟩, ?_⟩
      refine (piecesFrom_more_iff rfl).2 ⟨_, _, rfl, hd, ?_⟩
      exact (piecesFrom_last_iff rfl).2 ⟨_, rest, rfl, he, hchar, rfl, rfl⟩

/-- **A character is read exactly where its bytes stand**, and what stands behind them is read as if it stood alone. -/
theorem pieces_eq_scalar_iff : pieces bs = .scalar c n :: ps ↔
    ∃ rest : Bytes, bs = String.utf8EncodeChar c ++ rest ∧ (String.utf8EncodeChar c).length = n ∧ pieces rest = ps := by
  rw [pieces_eq_scalar_iff_spells]
  constructor
  · rintro ⟨xs, rest, hbs, hxs, hn, hps⟩
    rw [hxs.eq_encodeChar] at hbs hn
    exact ⟨rest, hbs, hn, hps⟩
  · rintro ⟨rest, hbs, hn, hps⟩
    exact ⟨_, rest, hbs, spells_encodeChar c, hn, hps⟩

/-! ## Texts -/

theorem encode_cons (c : Char) (s : Text) : encode (c :: s) = String.utf8EncodeChar c ++ encode s := List.flatMap_cons

theorem piecesFrom_inside_ne_nil (bs : Bytes) : ∀ p : Pending, piecesFrom (.inside p) bs ≠ [] := by
  induction bs with
  | nil => exact fun p => List.cons_ne_nil _ _
  | cons b bs ih =>
    intro p
    rw [piecesFrom, step]
    split
    · cases p.more with
      | zero => exact List.cons_ne_nil _ _
      | succ k => exact ih _
    · exact List.cons_ne_nil _ _

theorem pieces_eq_nil_iff : pieces bs = [] ↔ bs = [] := by
  constructor
  · intro h
    cases bs with
    | nil => rfl
    | cons b bs =>
      rw [pieces, piecesFrom, step, List.append_eq_nil_iff] at h
      obtain ⟨hnow, hlater⟩ := h
      cases hs : (start b).2 with
      | inside p =>
        rw [hs] at hlater
        exact absurd hlater (piecesFrom_inside_ne_nil bs p)
      | between =>
        unfold start at hnow hs
        grind
  · rintro rfl
    rfl

/-- The piece that an encoded character is. -/
def whole (c : Char) : Piece := .scalar c (String.utf8EncodeChar c).length

theorem pieces_encode_append (s : Text) (rest : Bytes) : pieces (encode s ++ rest) = s.map whole ++ pieces rest := by
  induction s with
  | nil => rfl
  | cons c s ih =>
    rw [encode_cons, List.append_assoc, List.map_cons, List.cons_append, ← ih]
    exact pieces_eq_scalar_iff.2 ⟨_, rfl, rfl, rfl⟩

theorem decodeLossy_encode_append (s : Text) (rest : Bytes) :
    decodeLossy (encode s ++ rest) = s ++ decodeLossy rest := by
  rw [decodeLossy, pieces_encode_append, List.map_append, List.map_map]
  exact congrArg (· ++ decodeLossy rest) (List.map_id s)

theorem firstDamage_whole (s : Text) (ps : List Piece) : ∀ k n : Nat,
    firstDamage k n (s.map whole ++ ps) = firstDamage (k + s.length) (n + (encode s).length) ps := by
  induction s with
  | nil => exact fun k n => rfl
  | cons c s ih =>
    intro k n
    rw [encode_cons, List.length_append, List.length_cons, Nat.add_comm s.length 1, ← Nat.add_assoc k,
      ← Nat.add_assoc n, ← ih]
    rfl

/-- **Decoding undoes encoding.** -/
theorem decode_encode (s : Text) : decode (encode s) = .ok s := by
  have hp := pieces_encode_append s []
  rw [List.append_nil] at hp
  have hs := decodeLossy_encode_append s []
  rw [List.append_nil] at hs
  rw [decode, hp, firstDamage_whole, hs]
  exact congrArg Except.ok (List.append_nil s)

theorem encode_injective {s t : Text} (h : encode s = encode t) : s = t :=
  Except.ok.inj (by rw [← decode_encode s, h, decode_encode t])

/-! ## The first damage -/

/-- The bytes begin with a damaged piece. -/
def Damaged (bs : Bytes) : Prop := ∃ d f ps, pieces bs = .damaged d f :: ps

/-- Any bytes are an encoded text, then nothing or damage. -/
theorem exists_encode_append (bs : Bytes) : ∃ s rest, bs = encode s ++ rest ∧ (rest = [] ∨ Damaged rest) := by
  -- The bytes of a piece are not given by their recursion, so the induction is on the pieces.
  generalize hp : pieces bs = ps
  induction ps generalizing bs with
  | nil => exact ⟨[], bs, rfl, .inl (pieces_eq_nil_iff.1 hp)⟩
  | cons q ps ih =>
    cases q with
    | damaged d f => exact ⟨[], bs, rfl, .inr ⟨d, f, ps, hp⟩⟩
    | scalar c n =>
      obtain ⟨bs, rfl, -, hbs⟩ := pieces_eq_scalar_iff.1 hp
      obtain ⟨s, rest, rfl, hrest⟩ := ih bs hbs
      exact ⟨c :: s, rest, by rw [encode_cons, List.append_assoc], hrest⟩

/-- The text is encoded in front of the bytes, and no longer one is. -/
structure LongestFront (raw : Bytes) (s : Text) : Prop where
  front : encode s <+: raw
  longest : ∀ t, encode t <+: raw → (encode t).length ≤ (encode s).length

theorem LongestFront.unique {raw : Bytes} {s t : Text} (hs : LongestFront raw s) (ht : LongestFront raw t) : s = t := by
  have hlen : (encode s).length = (encode t).length := Nat.le_antisymm (ht.longest s hs.front) (hs.longest t ht.front)
  exact encode_injective ((List.prefix_of_prefix_length_le hs.front ht.front (Nat.le_of_eq hlen)).eq_of_length hlen)

theorem longestFront_encode (s : Text) : LongestFront (encode s) s :=
  ⟨List.prefix_rfl, fun _ h => h.length_le⟩

theorem encode_append (s t : Text) : encode (s ++ t) = encode s ++ encode t := List.flatMap_append

/-- **No encoded text reaches into damage.** -/
theorem Damaged.isPrefix {rest u : Bytes} (h : Damaged rest) :
    ∀ {s t : Text}, encode t ++ u = encode s ++ rest → t <+: s
  | _, [], _ => List.nil_prefix
  | [], c :: t, heq => by
    obtain ⟨d, f, ps, hrest⟩ := h
    have hp := pieces_encode_append (c :: t) u
    rw [heq, show encode [] ++ rest = rest from rfl, hrest] at hp
    cases hp
  | e :: s, c :: t, heq => by
    have hp := pieces_encode_append (c :: t) u
    rw [heq, pieces_encode_append (e :: s) rest] at hp
    simp only [List.map_cons, List.cons_append, List.cons.injEq, whole, Piece.scalar.injEq] at hp
    obtain ⟨⟨rfl, -⟩, -⟩ := hp
    rw [encode_cons, encode_cons, List.append_assoc, List.append_assoc] at heq
    exact List.cons_prefix_cons.2 ⟨rfl, h.isPrefix (List.append_cancel_left heq)⟩

theorem longestFront_of_damaged {rest : Bytes} (h : Damaged rest) (s : Text) : LongestFront (encode s ++ rest) s := by
  refine ⟨List.prefix_append _ _, fun t ⟨u, hu⟩ => ?_⟩
  obtain ⟨r, rfl⟩ := h.isPrefix hu
  rw [encode_append, List.length_append]
  exact Nat.le_add_right _ _

theorem exists_longestFront (raw : Bytes) : ∃ s, LongestFront raw s := by
  obtain ⟨s, rest, rfl, rfl | hrest⟩ := exists_encode_append raw
  · exact ⟨s, by rw [List.append_nil]; exact longestFront_encode s⟩
  · exact ⟨s, longestFront_of_damaged hrest s⟩

/-- Behind its longest front, what is no encoded text is damaged. -/
theorem LongestFront.exists_damaged {raw : Bytes} {s : Text} (h : LongestFront raw s) (hraw : raw ≠ encode s) :
    ∃ rest, raw = encode s ++ rest ∧ Damaged rest := by
  obtain ⟨t, rest, rfl, rfl | hrest⟩ := exists_encode_append raw
  · rw [List.append_nil] at h hraw
    exact absurd (congrArg encode ((longestFront_encode t).unique h)) hraw
  · cases (longestFront_of_damaged hrest t).unique h
    exact ⟨rest, rfl, hrest⟩

/-- **The first damage is behind the longest front**: so many characters and so many bytes are before it. -/
theorem decode_of_damaged {rest : Bytes} (h : Damaged rest) (s : Text) :
    ∃ d f, decode (encode s ++ rest) = .error ⟨s.length, (encode s).length, d, f⟩ := by
  obtain ⟨d, f, ps, hrest⟩ := h
  refine ⟨d, f, ?_⟩
  rw [decode, pieces_encode_append, firstDamage_whole, hrest, firstDamage, Nat.zero_add, Nat.zero_add]

/-- The first replacement stands for the first damage. -/
theorem decodeLossy_of_damaged {rest : Bytes} (h : Damaged rest) (s : Text) :
    ∃ after, decodeLossy (encode s ++ rest) = s ++ replacement :: after := by
  obtain ⟨d, f, ps, hrest⟩ := h
  exact ⟨ps.map Piece.shown, by rw [decodeLossy_encode_append, decodeLossy, hrest]; rfl⟩

end Utf8
end Licensing
