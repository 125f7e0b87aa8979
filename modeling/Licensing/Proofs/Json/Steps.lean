import Licensing.Json.Reader
/-!
# How a value is read

The first character of a value tells what is read: a text, a list, a record, or else a number or a word.  These are the
steps of every reader, whatever its texts are made of.
-/
namespace Licensing
namespace Json

variable {κ : Type} [DecidableEq κ] {d : Dialect κ} {fuel depth : Nat} {t u r : List κ}

-- The equations of the reader are made here, once for all lemmas below.
attribute [local simp] value

theorem value_end (h : d.next? t = none) : value d (fuel + 1) depth t = .error (.expectedValue, t) := by
  simp [h]

theorem value_text (h : d.next? t = some ('"', u)) :
    value d (fuel + 1) depth t = (string d fuel t).map fun p => (.text p.1, p.2) := by
  simp [h]

/-! ## Lists -/

section Lists

variable (h : d.next? t = some ('[', u))
include h

theorem value_list_nil (hopen : d.mayOpen depth = true) (hclose : d.next? (d.skip u) = some (']', r)) :
    value d (fuel + 1) depth t = .ok (.list [], r) := by
  simp [h, hopen, hclose]

theorem value_list (hopen : d.mayOpen depth = true) (hitem : ∀ r, d.next? (d.skip u) ≠ some (']', r)) :
    value d (fuel + 1) depth t = (items d fuel (depth + 1) (d.skip u)).map fun p => (.list p.1, p.2) := by
  simp [h, hopen]

theorem value_list_tooDeep (hopen : d.mayOpen depth = false) :
    value d (fuel + 1) depth t = .error (.tooDeep, t) := by
  simp [h, hopen]

end Lists

/-! ## Records -/

section Records

variable (h : d.next? t = some ('\x7b', u))
include h

theorem value_record_nil (hopen : d.mayOpen depth = true) (hclose : d.next? (d.skip u) = some ('\x7d', r)) :
    value d (fuel + 1) depth t = .ok (.record [], r) := by
  simp [h, hopen, hclose]

theorem value_record (hopen : d.mayOpen depth = true) (hfield : ∀ r, d.next? (d.skip u) ≠ some ('\x7d', r)) :
    value d (fuel + 1) depth t = fields d fuel (depth + 1) [] (d.skip u) := by
  simp [h, hopen]

theorem value_record_tooDeep (hopen : d.mayOpen depth = false) :
    value d (fuel + 1) depth t = .error (.tooDeep, t) := by
  simp [h, hopen]

end Records

theorem value_scalar {c : Char} (h : d.next? t = some (c, u)) (hc : c ∉ ['"', '[', '\x7b']) :
    value d (fuel + 1) depth t = d.scalar t := by
  simp only [List.mem_cons, List.not_mem_nil, or_false, not_or] at hc
  rw [value, h]
  split
  · rename_i h0
    cases h0
  · rename_i h0
    exact absurd (congrArg Prod.fst (Option.some.inj h0)) hc.1
  · rename_i h0
    exact absurd (congrArg Prod.fst (Option.some.inj h0)) hc.2.1
  · rename_i h0
    exact absurd (congrArg Prod.fst (Option.some.inj h0)) hc.2.2
  · rfl

end Json
end Licensing
