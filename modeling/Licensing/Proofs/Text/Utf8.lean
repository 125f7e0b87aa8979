import Mathlib.Algebra.Group.Nat.Defs
import Licensing.Proofs.Text.Lines
import Licensing.Text.Utf8
/-!
# Lines in bytes

An ASCII byte always stands for itself, also in the middle of a character, and no other byte ever becomes a line feed or
a carriage return: overlong forms are damage.  So the ends of the lines can be found among the bytes, and what stands
behind the first `n` lines has no influence on how these are decoded (`decodeLossy_front`).
-/
namespace Licensing
namespace Utf8

/-- Whatever bytes come next, the character that is begun lies above ASCII. -/
structure Pending.Wide (p : Pending) : Prop where
  lo : 0x80 ≤ p.lo
  value : 0x80 ≤ (p.value * 64 + (p.lo - 0x80)) * 64 ^ p.more

def State.Wide : State → Prop
  | .between => True
  | .inside p => p.Wide

theorem State.wide_between : State.Wide .between := trivial

/-- What is shown of a character that breaks off. -/
def State.remains : State → Text
  | .between => []
  | .inside _ => [replacement]

def shownFrom (s : State) (bs : Bytes) : Text := (piecesFrom s bs).map Piece.shown

theorem shownFrom_nil (s : State) : shownFrom s [] = s.remains := by cases s <;> rfl

theorem shownFrom_cons (s : State) (b : UInt8) (bs : Bytes) :
    shownFrom s (b :: bs) = (step s b).1.map Piece.shown ++ shownFrom (step s b).2 bs := by
  rw [shownFrom, piecesFrom, List.map_append, shownFrom]

/-- The character ends no line. -/
def IsPlain (c : Char) : Prop := c ≠ '\n' ∧ c ≠ '\r'

theorem isPlain_replacement : IsPlain replacement := by constructor <;> decide

theorem isPlain_remains (s : State) : ∀ c ∈ s.remains, IsPlain c := by
  cases s with
  | between => exact nofun
  | inside p => simp [State.remains, isPlain_replacement]

theorem toNat_ofNat_of_isValidChar {n : Nat} (h : n.isValidChar) : (Char.ofNat n).toNat = n := by
  rw [Char.ofNat, dif_pos h]
  rfl

theorem isPlain_ofNat {n : Nat} (h : 0x80 ≤ n) : IsPlain (Char.ofNat n) := by
  by_cases hv : n.isValidChar
  · have hn := toNat_ofNat_of_isValidChar hv
    constructor <;> intro hc <;> rw [hc] at hn <;> simp at hn <;> omega
  · rw [Char.ofNat, dif_neg hv]
    constructor <;> decide

/-- Different ASCII bytes are different characters. -/
theorem eq_of_ofNat_eq {a b : UInt8} (ha : a.toNat < 0x80) (hb : b.toNat < 0x80)
    (h : Char.ofNat a.toNat = Char.ofNat b.toNat) : a = b := by
  have hn := congrArg Char.toNat h
  rw [toNat_ofNat_of_isValidChar (Or.inl (by omega)), toNat_ofNat_of_isValidChar (Or.inl (by omega))] at hn
  exact UInt8.toNat_inj.1 hn

/-! ## One byte -/

theorem start_ascii {b : UInt8} (h : b.toNat < 0x80) : start b = ([.scalar (Char.ofNat b.toNat) 1], .between) := by
  rw [start, if_pos h]

/-- **An ASCII byte stands for itself**, behind what is left of a character that it breaks off. -/
theorem shownFrom_ascii {s : State} (hs : s.Wide) {b : UInt8} (h : b.toNat < 0x80) (bs : Bytes) :
    shownFrom s (b :: bs) = s.remains ++ Char.ofNat b.toNat :: shownFrom .between bs := by
  rw [shownFrom_cons]
  cases s with
  | between =>
    rw [step, start_ascii h]
    rfl
  | inside p =>
    have hlo : ¬ (p.lo ≤ b.toNat ∧ b.toNat ≤ p.hi) := fun hb => by
      have := hs.lo
      omega
    rw [step, if_neg (by simpa using hlo), start_ascii h]
    rfl

/-- What comes of a byte above ASCII: no line ends, and unless a character is begun something is shown. -/
structure Quiet (r : List Piece × State) : Prop where
  plain : ∀ c ∈ r.1.map Piece.shown, IsPlain c
  wide : r.2.Wide
  shows : r.2 = .between → r.1 ≠ []

theorem quiet_damaged (bs : Bytes) (f : Fault) : Quiet ([.damaged bs f], .between) :=
  ⟨by simp [Piece.shown, isPlain_replacement], trivial, fun _ => List.cons_ne_nil _ _⟩

theorem quiet_inside {p : Pending} (hp : p.Wide) : Quiet ([], .inside p) := ⟨by simp, hp, nofun⟩

theorem quiet_start {b : UInt8} (h : 0x80 ≤ b.toNat) : Quiet (start b) := by
  unfold start
  generalize b.toNat = n at h
  simp only
  split
  · omega
  split
  · exact quiet_damaged _ _
  split
  · exact quiet_inside ⟨Nat.le_refl _, by simp only [Nat.pow_zero]; omega⟩
  split
  · refine quiet_inside ⟨?_, ?_⟩ <;> simp only [Nat.pow_one] <;> split <;> omega
  split
  · refine quiet_inside ⟨?_, ?_⟩ <;> simp only [Nat.reducePow] <;> split <;> omega
  · exact quiet_damaged _ _

/-- A byte in its bounds carries on a character above ASCII. -/
theorem Pending.Wide.next {p : Pending} (hp : p.Wide) {n k : Nat} (hn : p.lo ≤ n) (hk : p.more = k) :
    0x80 ≤ (p.value * 64 + (n - 0x80)) * 64 ^ k :=
  Nat.le_trans (hk ▸ hp.value) (Nat.mul_le_mul_right _ (by omega))

/-- **Any other byte ends no line**, by itself or as a part of a character. -/
theorem quiet_step {s : State} (hs : s.Wide) {b : UInt8} (h : 0x80 ≤ b.toNat) : Quiet (step s b) := by
  cases s with
  | between => exact quiet_start h
  | inside p =>
    rw [step]
    split
    · rename_i hb
      simp only [Bool.and_eq_true, decide_eq_true_eq] at hb
      cases hm : p.more with
      | zero =>
        have hvalue := Pending.Wide.next hs hb.1 hm
        rw [Nat.pow_zero, Nat.mul_one] at hvalue
        exact ⟨by simpa [Piece.shown] using isPlain_ofNat hvalue, trivial, fun _ => List.cons_ne_nil _ _⟩
      | succ k =>
        have hvalue := Pending.Wide.next hs hb.1 hm
        rw [Nat.pow_succ', ← Nat.mul_assoc] at hvalue
        exact quiet_inside ⟨Nat.le_refl _, by simpa using hvalue⟩
    · obtain ⟨hplain, hwide, -⟩ := quiet_start h
      exact ⟨by simpa [Piece.shown, isPlain_replacement] using hplain, hwide, fun _ => List.cons_ne_nil _ _⟩

/-! ## The first lines -/

/-- A line feed at the beginning comes from a byte of its own. -/
theorem head?_shownFrom : ∀ {s : State} {bs : Bytes}, s.Wide → (shownFrom s bs).head? = some '\n' →
    s = .between ∧ bs.head? = some 10
  | s, [], _, h => by
    rw [shownFrom_nil] at h
    cases s <;> cases h
  | s, b :: bs, hs, h => by
    by_cases hb : b.toNat < 0x80
    · rw [shownFrom_ascii hs hb] at h
      cases s with
      | between =>
        exact ⟨rfl, congrArg some (eq_of_ofNat_eq hb (by decide) (Option.some.inj h))⟩
      | inside p => cases h
    · obtain ⟨hplain, hwide, hshows⟩ := quiet_step hs (Nat.le_of_not_lt hb)
      rw [shownFrom_cons] at h
      cases hq : (step s b).1 with
      | nil =>
        rw [hq] at h
        exact absurd hq (hshows (head?_shownFrom hwide h).1)
      | cons q qs =>
        rw [hq] at h hplain
        exact absurd (Option.some.inj h) (hplain q.shown List.mem_cons_self).1

theorem head?_shownFrom_between {bs : Bytes} : (shownFrom .between bs).head? = some '\n' ↔ bs.head? = some 10 := by
  constructor
  · exact fun h => (head?_shownFrom State.wide_between h).2
  · intro h
    obtain ⟨bs, rfl⟩ := List.head?_eq_some_iff.1 h
    rw [shownFrom_ascii State.wide_between (by decide)]
    rfl

/-- An ASCII byte ends a line among the bytes exactly if it does among the characters. -/
theorem ends_ascii_iff {b : UInt8} (hb : b.toNat < 0x80) (bs : Bytes) :
    (b = 10 ∨ b = 13 ∧ bs.head? ≠ some 10) ↔
      (Char.ofNat b.toNat = '\n' ∨ Char.ofNat b.toNat = '\r' ∧ (shownFrom .between bs).head? ≠ some '\n') := by
  have hlf : Char.ofNat b.toNat = '\n' ↔ b = 10 :=
    ⟨fun h => eq_of_ofNat_eq hb (by decide) h, fun h => by rw [h]; rfl⟩
  have hcr : Char.ofNat b.toNat = '\r' ↔ b = 13 :=
    ⟨fun h => eq_of_ofNat_eq hb (by decide) h, fun h => by rw [h]; rfl⟩
  rw [hlf, hcr, Ne, Ne, head?_shownFrom_between]

/-- By induction on the bytes, from any state in which a character may have been begun; there is none when no line is
asked for. -/
theorem shownFrom_front (bs : Bytes) : ∀ (n : Nat) {s : State}, s.Wide → (n = 0 → s = .between) →
    shownFrom s (front 10 13 n bs) = front '\n' '\r' n (shownFrom s bs) := by
  induction bs with
  | nil =>
    intro n s _ h0
    cases n with
    | zero => rw [h0 rfl, front, front, shownFrom_nil, State.remains]
    | succ n =>
      have h := front_append n [] (isPlain_remains s)
      rw [List.append_nil] at h
      rw [front, shownFrom_nil, h, front, List.append_nil]
  | cons b bs ih =>
    intro n s hs h0
    cases n with
    | zero => rw [h0 rfl, front, front, shownFrom_nil, State.remains]
    | succ n =>
      by_cases hb : b.toNat < 0x80
      · rw [shownFrom_ascii hs hb, front_append n _ (isPlain_remains s)]
        by_cases hends : b = 10 ∨ b = 13 ∧ bs.head? ≠ some 10
        · rw [front_of_ends n hends, front_of_ends n ((ends_ascii_iff hb bs).1 hends), shownFrom_ascii hs hb,
            ih n State.wide_between fun _ => rfl]
        · rw [front_of_not_ends n hends, front_of_not_ends n fun h => hends ((ends_ascii_iff hb bs).2 h),
            shownFrom_ascii hs hb, ih (n + 1) State.wide_between fun h => absurd h n.succ_ne_zero]
      · obtain ⟨hplain, hwide, -⟩ := quiet_step hs (Nat.le_of_not_lt hb)
        have hlf : b ≠ 10 := fun h => hb (by rw [h]; decide)
        have hcr : b ≠ 13 := fun h => hb (by rw [h]; decide)
        rw [front_cons hlf hcr, shownFrom_cons, shownFrom_cons, front_append n _ hplain,
          ih (n + 1) hwide fun h => absurd h n.succ_ne_zero]

/-- **Decoding the bytes of the first lines gives the first lines.** -/
theorem decodeLossy_front (n : Nat) (bs : Bytes) :
    decodeLossy (front 10 13 n bs) = front '\n' '\r' n (decodeLossy bs) :=
  shownFrom_front bs n State.wide_between fun _ => rfl

end Utf8
end Licensing
