import Licensing.Proofs.Except
import Licensing.Proofs.Text.Decoding
import Licensing.Text.Wide
/-!
# UTF-8 with surrogates

Bytes are decoded leniently exactly if they are encoded points, and as just those points (`decode8_eq_ok_iff`).  The
decoder finds the three bytes of a surrogate as damage, byte by byte, so what has to be known is where a damaged piece
ends: what stands behind it is read as if it stood alone (`pieces_eq_damaged`).
-/
namespace Licensing

namespace Utf8

/-! ## Damaged pieces -/

/-- A damaged piece holds all that was read of a character, and perhaps more. -/
theorem piecesFrom_inside_eq_damaged {d : Bytes} {f : Fault} {ps : List Piece} : ∀ {bs : Bytes} {p : Pending},
    piecesFrom (.inside p) bs = .damaged d f :: ps →
    ∃ more rest, d = p.read ++ more ∧ bs = more ++ rest ∧ pieces rest = ps
  | [], p, h => by
    obtain ⟨hd, rfl⟩ := List.cons.inj h
    obtain ⟨rfl, -⟩ := Piece.damaged.inj hd
    exact ⟨[], [], (List.append_nil _).symm, rfl, rfl⟩
  | b :: bs, p, h => by
    by_cases hb : p.lo ≤ b.toNat ∧ b.toNat ≤ p.hi
    · cases hm : p.more with
      | zero =>
        rw [piecesFrom_last hm hb] at h
        cases h
      | succ k =>
        rw [piecesFrom_more hm hb] at h
        obtain ⟨more, rest, rfl, rfl, hps⟩ := piecesFrom_inside_eq_damaged h
        exact ⟨b :: more, rest, by simp [Pending.next], rfl, hps⟩
    · rw [piecesFrom, step, if_neg (by simpa using hb)] at h
      obtain ⟨hd, hps⟩ := List.cons.inj h
      obtain ⟨rfl, -⟩ := Piece.damaged.inj hd
      exact ⟨[], b :: bs, (List.append_nil _).symm, rfl, hps⟩

/-- A first byte is a character, it is damaged, or it begins a character. -/
theorem start_cases (b : UInt8) : (∃ c, start b = ([.scalar c 1], .between)) ∨
    start b = ([.damaged [b] .badStart], .between) ∨ ∃ p : Pending, p.read = [b] ∧ start b = ([], .inside p) := by
  generalize hs : start b = s
  unfold start at hs
  dsimp only at hs
  split at hs
  · exact .inl ⟨_, hs.symm⟩
  split at hs
  · exact .inr (.inl hs.symm)
  split at hs
  · exact .inr (.inr ⟨_, rfl, hs.symm⟩)
  split at hs
  · exact .inr (.inr ⟨_, rfl, hs.symm⟩)
  split at hs
  · exact .inr (.inr ⟨_, rfl, hs.symm⟩)
  · exact .inr (.inl hs.symm)

/-- **What stands behind a damaged piece is read as if it stood alone.** -/
theorem pieces_eq_damaged {bs d : Bytes} {f : Fault} {ps : List Piece} (h : pieces bs = .damaged d f :: ps) :
    ∃ rest, bs = d ++ rest ∧ pieces rest = ps := by
  cases bs with
  | nil => cases h
  | cons b bs =>
    rw [pieces, piecesFrom, step] at h
    rcases start_cases b with ⟨c, hb⟩ | hb | ⟨p, hp, hb⟩
    · rw [hb] at h
      cases h
    · rw [hb] at h
      obtain ⟨hd, hps⟩ := List.cons.inj h
      obtain ⟨rfl, -⟩ := Piece.damaged.inj hd
      exact ⟨bs, rfl, hps⟩
    · rw [hb] at h
      obtain ⟨more, rest, rfl, rfl, hps⟩ := piecesFrom_inside_eq_damaged h
      exact ⟨rest, by rw [hp]; rfl, hps⟩

/-- No character begins with a byte that is only found inside of one. -/
theorem pieces_cons_of_isTail {b : UInt8} (hb : IsTail b) (bs : Bytes) :
    pieces (b :: bs) = .damaged [b] .badStart :: pieces bs := by
  unfold IsTail at hb
  have hstart : start b = ([.damaged [b] .badStart], .between) := by
    rw [start, if_neg (by omega), if_pos (by omega)]
  rw [pieces, piecesFrom, step, hstart]
  rfl

/-- ED begins no character whose second byte is beyond its bounds. -/
theorem pieces_ED {b : UInt8} (hb : 0xA0 ≤ b.toNat ∧ b.toNat ≤ 0xBF) (bs : Bytes) :
    pieces (0xED :: b :: bs) = .damaged [0xED] .badContinuation :: pieces (b :: bs) := by
  have hstart : start 0xED = ([], .inside ⟨[0xED], 0xD, 1, 0x80, 0x9F⟩) := rfl
  have hbeyond : ¬ (decide (0x80 ≤ b.toNat) && decide (b.toNat ≤ 0x9F)) = true := by
    rw [Bool.and_eq_true, decide_eq_true_eq, decide_eq_true_eq]
    omega
  rw [pieces, piecesFrom, step, hstart, piecesFrom, step, if_neg hbeyond]
  rfl

end Utf8

namespace Wide

open Utf8 (pieces Piece pieces_eq_scalar_iff pieces_eq_damaged)

/-- The bytes of a point: a surrogate has three, as other code points of its size have. -/
def pointBytes : Point → Bytes
  | .char c => String.utf8EncodeChar c
  | .half n => [0xED, UInt8.ofNat (0xA0 + n / 0x40), UInt8.ofNat (0x80 + n % 0x40)]

def encode8 (w : Wide) : Bytes := w.flatMap pointBytes

theorem encode8_cons (p : Point) (w : Wide) : encode8 (p :: w) = pointBytes p ++ encode8 w := List.flatMap_cons

theorem pointOfNat_half (n : Fin 0x800) : Point.ofNat (0xD800 + n) = .half n := by
  have hhalf : (Surrogate.isHigh (0xD800 + n) || Surrogate.isLow (0xD800 + n)) = true := by
    simp only [Surrogate.isHigh, Surrogate.isLow, Bool.or_eq_true, Bool.and_eq_true, decide_eq_true_eq]
    omega
  rw [Point.ofNat, if_pos hhalf, Nat.add_sub_cancel_left]
  exact congrArg Point.half (Fin.ofNat_val_eq_self n)

theorem toNat_half (n : Fin 0x800) : (UInt8.ofNat (0xA0 + n / 0x40)).toNat = 0xA0 + n / 0x40 ∧
    (UInt8.ofNat (0x80 + n % 0x40)).toNat = 0x80 + n % 0x40 :=
  ⟨Utf8.toNat_ofNat_of_lt (by omega), Utf8.toNat_ofNat_of_lt (by omega)⟩

/-- **Three bytes spell a surrogate exactly if they are its bytes.** -/
theorem surrogate?_eq_some_iff {a b c : UInt8} {p : Point} :
    surrogate? a b c = some p ↔ ∃ n, p = .half n ∧ [a, b, c] = pointBytes p := by
  unfold surrogate?
  constructor
  · intro h
    split at h
    · rename_i hbytes
      simp only [Bool.and_eq_true, decide_eq_true_eq, UInt8.le_iff_toNat_le, UInt8.reduceToNat] at hbytes
      obtain ⟨⟨⟨⟨rfl, hb⟩, hb'⟩, hc⟩, hc'⟩ := hbytes
      have hlt : (b.toNat - 0xA0) * 0x40 + (c.toNat - 0x80) < 0x800 := by omega
      have hpoint := pointOfNat_half ⟨_, hlt⟩
      obtain rfl := Option.some.inj h
      rw [Nat.add_assoc, hpoint]
      refine ⟨_, rfl, ?_⟩
      simp only [pointBytes, List.cons.injEq, true_and, and_true]
      exact ⟨Utf8.eq_ofNat (by omega), Utf8.eq_ofNat (by omega)⟩
    · cases h
  · rintro ⟨n, rfl, h⟩
    simp only [pointBytes, List.cons.injEq, and_true] at h
    obtain ⟨rfl, rfl, rfl⟩ := h
    obtain ⟨hb, hc⟩ := toNat_half n
    have hn : (0xA0 + n / 0x40 - 0xA0) * 0x40 + (0x80 + n % 0x40 - 0x80) = (n : Nat) := by omega
    rw [if_pos]
    · rw [hb, hc, Nat.add_assoc, hn, pointOfNat_half]
    · simp only [Bool.and_eq_true, decide_eq_true_eq, UInt8.le_iff_toNat_le, hb, hc, UInt8.reduceToNat, true_and]
      omega

/-- The bytes of a surrogate are damage, each by itself. -/
theorem pieces_half (n : Fin 0x800) (bs : Bytes) : ∃ (a b c : UInt8) (f g h : Utf8.Fault),
    pieces (pointBytes (.half n) ++ bs) = .damaged [a] f :: .damaged [b] g :: .damaged [c] h :: pieces bs ∧
      [a, b, c] = pointBytes (.half n) := by
  obtain ⟨hb, hc⟩ := toNat_half n
  refine ⟨_, _, _, .badContinuation, .badStart, .badStart, ?_, rfl⟩
  rw [pointBytes, List.cons_append, List.cons_append, List.cons_append, List.nil_append,
    Utf8.pieces_ED (by rw [hb]; omega), Utf8.pieces_cons_of_isTail (by unfold Utf8.IsTail; rw [hb]; omega),
    Utf8.pieces_cons_of_isTail (by unfold Utf8.IsTail; rw [hc]; omega)]

theorem ofPieces_pieces_encode8 : ∀ (w : Wide) (k : Nat), ofPieces k (pieces (encode8 w)) = .ok w
  | [], _ => rfl
  | .char c :: w, k => by
    have hpieces : pieces (encode8 (.char c :: w)) = .scalar c _ :: pieces (encode8 w) :=
      pieces_eq_scalar_iff.2 ⟨_, encode8_cons _ _, rfl, rfl⟩
    rw [hpieces, ofPieces, ofPieces_pieces_encode8 w]
    rfl
  | .half n :: w, k => by
    obtain ⟨a, b, c, f, g, h, hpieces, hbytes⟩ := pieces_half n (encode8 w)
    rw [encode8_cons, hpieces, ofPieces, surrogate?_eq_some_iff.2 ⟨n, rfl, hbytes⟩]
    dsimp only
    rw [ofPieces_pieces_encode8 w]
    rfl

theorem eq_encode8_of_ofPieces : ∀ {ps : List Piece} {k : Nat} {bs : Bytes} {w : Wide}, pieces bs = ps →
    ofPieces k ps = .ok w → bs = encode8 w := by
  intro ps k
  induction k, ps using ofPieces.induct with
  | case1 k =>
    rintro bs w hps h
    cases h
    exact Utf8.pieces_eq_nil_iff.1 hps
  | case2 k c size ps ih =>
    rintro bs w hps h
    rw [ofPieces] at h
    obtain ⟨v, hv, rfl⟩ := map_eq_ok_iff.1 h
    obtain ⟨rest, rfl, -, hrest⟩ := pieces_eq_scalar_iff.1 hps
    rw [encode8_cons, ← ih hrest hv]
    rfl
  | case3 k a f b g c h ps p hp ih =>
    rintro bs w hps hw
    rw [ofPieces, hp] at hw
    obtain ⟨v, hv, rfl⟩ := map_eq_ok_iff.1 hw
    obtain ⟨_, rfl, hps₁⟩ := pieces_eq_damaged hps
    obtain ⟨_, rfl, hps₂⟩ := pieces_eq_damaged hps₁
    obtain ⟨_, rfl, hps₃⟩ := pieces_eq_damaged hps₂
    obtain ⟨n, rfl, hbytes⟩ := surrogate?_eq_some_iff.1 hp
    rw [encode8_cons, ← ih hps₃ hv, ← hbytes]
    rfl
  | case4 k a f b g c h ps hp =>
    rintro bs w - hw
    rw [ofPieces, hp] at hw
    cases hw
  | case5 k ps d f hne =>
    rintro bs w - hw
    rw [ofPieces] at hw
    · cases hw
    · exact hne

/-- **Bytes are decoded leniently exactly if they are encoded points**, and as those points. -/
theorem decode8_eq_ok_iff {bs : Bytes} {w : Wide} : decode8 bs = .ok w ↔ bs = encode8 w := by
  constructor
  · exact eq_encode8_of_ofPieces rfl
  · rintro rfl
    exact ofPieces_pieces_encode8 w 0

/-- An encoded text is decoded as that text. -/
theorem decode8_encode (t : Text) : decode8 (Utf8.encode t) = .ok (ofText t) := by
  rw [decode8_eq_ok_iff, encode8, ofText, List.flatMap_map]
  rfl

end Wide
end Licensing
