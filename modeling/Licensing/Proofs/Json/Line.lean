import Mathlib.Tactic.SplitIfs
import Licensing.Proofs.Json.Values
/-!
# JSON on one line

Where the layout has no lines, every value is written on one line: its texts may hold the end of a line, but what is
written for them is an escape (`oneLine_render`).  So each value that JSON holds without loss is told by a single line
(`tells_compact`).
-/
namespace Licensing
namespace Json

/-- No line ends in the text, which has no control character at all. -/
def OneLine (t : Text) : Prop := ∀ c ∈ t, 0x20 ≤ c.toNat

instance (t : Text) : Decidable (OneLine t) := List.decidableBAll (fun c : Char => 0x20 ≤ c.toNat) t

@[simp]
theorem oneLine_nil : OneLine [] := nofun

@[simp]
theorem oneLine_cons_iff {c : Char} {t : Text} : OneLine (c :: t) ↔ 0x20 ≤ c.toNat ∧ OneLine t := List.forall_mem_cons

@[simp]
theorem oneLine_append_iff {s t : Text} : OneLine (s ++ t) ↔ OneLine s ∧ OneLine t := List.forall_mem_append

/-! ## Texts -/

theorem oneLine_hex (w n : Nat) : OneLine (Text.hex w n) := forall_mem_hex (by decide) w n

theorem oneLine_units (n : Nat) : OneLine (units n) := by
  have hunit : ∀ m, OneLine (hexUnit m) := fun m => by simp [hexUnit, oneLine_hex]
  unfold units
  split
  · exact hunit n
  · exact oneLine_append_iff.2 ⟨hunit _, hunit _⟩

/-- **Every character is escaped if it has to be.** -/
theorem oneLine_escape (ascii : Bool) (c : Char) : OneLine (escape ascii c) := by
  unfold escape
  split_ifs with h₁ h₂ h₃ h₄ h₅ h₆ h₇ h₈
  all_goals try decide
  · exact oneLine_units _
  · have hc : ¬ c.toNat < 0x20 := fun hlt => h₈ (by simp [hlt])
    simpa using hc

theorem oneLine_quote (ascii : Bool) (t : Text) : OneLine (quote ascii t) := by
  have hflat : OneLine (t.flatMap (escape ascii)) := fun c hc => by
    obtain ⟨d, -, hd⟩ := List.mem_flatMap.1 hc
    exact oneLine_escape ascii d c hd
  simp [quote, hflat]

/-! ## Numbers -/

theorem oneLine_ofNat (n : Nat) : OneLine (Text.ofNat n) := fun c hc => by
  have hdigit := isDigit_of_mem_ofNat c hc
  simp only [isDigit, Bool.and_eq_true, decide_eq_true_eq, Char.le_def, UInt32.le_iff_toNat_le] at hdigit
  exact Nat.le_trans (by decide) hdigit.1

theorem oneLine_ofInt : ∀ n : Int, OneLine (Text.ofInt n)
  | .ofNat n => oneLine_ofNat n
  | .negSucc n => oneLine_cons_iff.2 ⟨by decide, oneLine_ofNat _⟩

open Binary64 (zeros layout magnitude sign)

theorem oneLine_zeros (n : Nat) : OneLine (zeros n) := fun c hc => by
  rw [List.eq_of_mem_replicate hc]
  decide

theorem oneLine_layout {ds : Text} (h : OneLine ds) (point : Int) : OneLine (layout ds point) := by
  have htake : ∀ n, OneLine (ds.take n) := fun n c hc => h c (List.mem_of_mem_take hc)
  have hdrop : ∀ n, OneLine (ds.drop n) := fun n c hc => h c (List.mem_of_mem_drop hc)
  have htail : OneLine ds.tail := fun c hc => h c (List.mem_of_mem_tail hc)
  unfold layout
  split_ifs <;> simp [oneLine_zeros, oneLine_ofNat, htake, hdrop, htail, h]

theorem oneLine_numeral (x : Binary64) : OneLine (numeral x) := by
  have hsign : ∀ negative, OneLine (sign negative) := fun negative => by cases negative <;> decide
  cases x with
  | finite s m e =>
    rw [numeral, Binary64.render, oneLine_append_iff, magnitude]
    refine ⟨hsign s, ?_⟩
    split
    · decide
    · exact oneLine_layout (oneLine_ofNat _) _
  | infinite s => exact oneLine_append_iff.2 ⟨hsign s, by decide⟩
  | nan => decide

/-! ## Values -/

/-- The layout has no lines of its own. -/
structure Layout.Flat (l : Layout) : Prop where
  indent : l.indent = none
  itemGap : OneLine l.itemGap
  keyGap : OneLine l.keyGap

theorem Layout.flat_compact : Layout.compact.Flat := ⟨rfl, oneLine_nil, oneLine_nil⟩

theorem Layout.Flat.newline {l : Layout} (hl : l.Flat) (depth : Nat) : l.newline depth = [] := by
  rw [Layout.newline, hl.indent]

theorem Layout.Flat.comma {l : Layout} (hl : l.Flat) (depth : Nat) : OneLine (l.comma depth) := by
  simp [Layout.comma, hl.newline, hl.itemGap]

theorem Layout.Flat.key {l : Layout} (hl : l.Flat) (k : Text) : OneLine (l.key k) := by
  simp [Layout.key, oneLine_quote, hl.keyGap]

section Values

variable {l : Layout} (hl : l.Flat)
include hl

mutual

theorem oneLine_write (depth : Nat) : ∀ v : Value, OneLine (write l depth v)
  | .null => by simp [write]
  | .bool b => by cases b <;> simp [write]
  | .int n => oneLine_ofInt n
  | .float x => oneLine_numeral x
  | .text t => oneLine_quote _ t
  | .moment m => oneLine_quote _ m.shown
  | .list [] => by simp [write]
  | .list (v :: vs) => by
    have hv := oneLine_write (depth + 1) v
    have hvs := oneLine_writeItems (depth + 1) vs
    simp [write, hl.newline, hv, hvs]
  | .record [] => by simp [write]
  | .record ((k, v) :: fs) => by
    have hv := oneLine_write (depth + 1) v
    have hfs := oneLine_writeFields (depth + 1) fs
    simp [write, hl.newline, hl.key, hv, hfs]

theorem oneLine_writeItems (depth : Nat) : ∀ vs : List Value, OneLine (writeItems l depth vs)
  | [] => oneLine_nil
  | v :: vs => by
    have hv := oneLine_write depth v
    have hvs := oneLine_writeItems depth vs
    simp [writeItems, hl.comma, hv, hvs]

theorem oneLine_writeFields (depth : Nat) : ∀ fs : Fields, OneLine (writeFields l depth fs)
  | [] => oneLine_nil
  | (k, v) :: fs => by
    have hv := oneLine_write depth v
    have hfs := oneLine_writeFields depth fs
    simp [writeFields, hl.comma, hl.key, hv, hfs]

end

/-- **A layout without lines writes every value on one line.** -/
theorem oneLine_render (v : Value) : OneLine (render l v) := oneLine_write hl 0 v

end Values

/-- The text is one line, and it is read as the value. -/
structure Tells (t : Text) (v : Value) : Prop where
  oneLine : OneLine t
  read_eq : read t = .ok v

theorem tells_compact {v : Value} (h : Lossless v) : Tells (render .compact v) v :=
  ⟨oneLine_render Layout.flat_compact v, read_render (Layout.spaced_ofIndent none) h⟩

end Json
end Licensing
