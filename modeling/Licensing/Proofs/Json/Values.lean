import Licensing.Proofs.Except
import Licensing.Proofs.Json.Numerals
import Licensing.Proofs.Json.RoundTrip
/-!
# Data that JSON can hold

`IsData` says of a value that it is data as JSON has it.  Such data with finite numbers is written without loss
(`lossless_of_isJson`), and everything that is read is such data, apart from numbers that are not finite
(`isData_of_read`).
-/
namespace Licensing
namespace Json

open Binary64 (IsFinite Stored)

variable {p q r : Binary64 → Prop}

mutual

/-- Data without moments in which no record has two fields of one key, and every number with a fraction is one of which
`p` holds. -/
def IsData (p : Binary64 → Prop) : Value → Prop
  | .null => True
  | .bool _ => True
  | .int _ => True
  | .float x => p x
  | .text _ => True
  | .moment _ => False
  | .list vs => AreData p vs
  | .record fs => (fs.map (·.1)).Nodup ∧ FieldsAreData p fs

def AreData (p : Binary64 → Prop) : List Value → Prop
  | [] => True
  | v :: vs => IsData p v ∧ AreData p vs

def FieldsAreData (p : Binary64 → Prop) : List (Text × Value) → Prop
  | [] => True
  | (_, v) :: fs => IsData p v ∧ FieldsAreData p fs

end

/-- Data as JSON has it, with finite numbers. -/
def IsJson : Value → Prop := IsData IsFinite

theorem fieldsAreData_iff : ∀ {fs : Fields}, FieldsAreData p fs ↔ ∀ f ∈ fs, IsData p f.2
  | [] => by simp [FieldsAreData]
  | (k, v) :: fs => by rw [FieldsAreData, fieldsAreData_iff, List.forall_mem_cons]

theorem isData_record_iff {fs : Fields} :
    IsData p (.record fs) ↔ (fs.map (·.1)).Nodup ∧ ∀ f ∈ fs, IsData p f.2 :=
  and_congr_right fun _ => fieldsAreData_iff

/-! ## Numbers of which several things hold -/

mutual

theorem IsData.and_imp (h : ∀ x, p x → q x → r x) : ∀ {v : Value}, IsData p v → IsData q v → IsData r v
  | .null, _, _ => trivial
  | .bool _, _, _ => trivial
  | .int _, _, _ => trivial
  | .float x, hp, hq => h x hp hq
  | .text _, _, _ => trivial
  | .list _, hp, hq => AreData.and_imp h hp hq
  | .record _, hp, hq => ⟨hp.1, FieldsAreData.and_imp h hp.2 hq.2⟩

theorem AreData.and_imp (h : ∀ x, p x → q x → r x) : ∀ {vs : List Value}, AreData p vs → AreData q vs → AreData r vs
  | [], _, _ => trivial
  | _ :: _, hp, hq => ⟨IsData.and_imp h hp.1 hq.1, AreData.and_imp h hp.2 hq.2⟩

theorem FieldsAreData.and_imp (h : ∀ x, p x → q x → r x) : ∀ {fs : Fields}, FieldsAreData p fs → FieldsAreData q fs →
    FieldsAreData r fs
  | [], _, _ => trivial
  | _ :: _, hp, hq => ⟨IsData.and_imp h hp.1 hq.1, FieldsAreData.and_imp h hp.2 hq.2⟩

end

/-! ## Writing -/

mutual

/-- **Data whose numbers are read back is written without loss.** -/
theorem lossless_of_isData (h : ∀ x, p x → ScalarReads (numeral x) (.float x)) : ∀ {v : Value}, IsData p v → Lossless v
  | .null, _ => trivial
  | .bool _, _ => trivial
  | .int _, _ => trivial
  | .float x, hv => h x hv
  | .text _, _ => trivial
  | .list _, hv => losslessItems_of_areData h hv
  | .record _, hv => ⟨hv.1, losslessFields_of_fieldsAreData h hv.2⟩

theorem losslessItems_of_areData (h : ∀ x, p x → ScalarReads (numeral x) (.float x)) : ∀ {vs : List Value},
    AreData p vs → LosslessItems vs
  | [], _ => trivial
  | _ :: _, hv => ⟨lossless_of_isData h hv.1, losslessItems_of_areData h hv.2⟩

theorem losslessFields_of_fieldsAreData (h : ∀ x, p x → ScalarReads (numeral x) (.float x)) : ∀ {fs : Fields},
    FieldsAreData p fs → LosslessFields fs
  | [], _ => trivial
  | _ :: _, hv => ⟨lossless_of_isData h hv.1, losslessFields_of_fieldsAreData h hv.2⟩

end

theorem lossless_of_isJson {v : Value} (h : IsJson v) : Lossless v := lossless_of_isData (fun _ => scalarReads_float) h

/-! ## Reading -/

/-- A finite number is kept in the one way. -/
def Kept (x : Binary64) : Prop := ∀ s m e, x = .finite s m e → Stored m e

theorem kept_ofDecimal (negative : Bool) (c : Nat) (e : Int) : Kept (.ofDecimal negative c e) := fun _ _ _ h =>
  Binary64.stored_of_ofDecimal h

theorem mem_put {k : Text} {v : Value} {f : Text × Value} : ∀ {fs : Fields}, f ∈ fs.put k v → f = (k, v) ∨ f ∈ fs
  | [], h => .inl (List.mem_singleton.1 h)
  | (j, w) :: fs, h => by
    rw [Fields.put] at h
    split_ifs at h with hj
    · rcases List.mem_cons.1 h with rfl | h
      · exact .inl (by rw [hj])
      · exact .inr (List.mem_cons_of_mem _ h)
    · rcases List.mem_cons.1 h with rfl | h
      · exact .inr List.mem_cons_self
      · exact (mem_put h).imp_right (List.mem_cons_of_mem _)

theorem nodup_put {k : Text} {v : Value} : ∀ {fs : Fields}, (fs.map (·.1)).Nodup → ((fs.put k v).map (·.1)).Nodup
  | [], _ => by simp [Fields.put]
  | (j, w) :: fs, h => by
    obtain ⟨hj, hfs⟩ := List.nodup_cons.1 h
    rw [Fields.put]
    split_ifs with hk
    · exact h
    · refine List.nodup_cons.2 ⟨fun hm => ?_, nodup_put hfs⟩
      obtain ⟨f, hf, he⟩ := List.mem_map.1 hm
      rcases mem_put hf with rfl | hf
      · exact hk he.symm
      · exact hj (List.mem_map.2 ⟨f, hf, he⟩)

theorem isData_put {k : Text} {v : Value} {fs : Fields} (hv : IsData p v) (h : IsData p (.record fs)) :
    IsData p (.record (fs.put k v)) := by
  obtain ⟨hnd, hfs⟩ := isData_record_iff.1 h
  refine isData_record_iff.2 ⟨nodup_put hnd, fun f hf => ?_⟩
  rcases mem_put hf with rfl | hf
  · exact hv
  · exact hfs f hf

theorem isData_integer {limit : Option Nat} {negative : Bool} {ds t rest : Text} {v : Value}
    (h : integer limit negative ds t = .ok (v, rest)) : IsData p v := by
  unfold integer at h
  split at h
  · split_ifs at h
    all_goals
      cases h
      trivial
  · cases h
    trivial

theorem isData_unsigned {limit : Option Nat} {place : Text} {negative : Bool} {t rest : Text} {v : Value}
    (h : unsigned limit place negative t = .ok (v, rest)) : IsData Kept v := by
  unfold unsigned at h
  split at h
  · cases h
  · split at h
    · exact isData_integer h
    · cases h
      exact kept_ofDecimal _ _ _

theorem isData_word : ∀ w ∈ words, IsData Kept w.2 := by
  have hnan : Kept .nan := fun _ _ _ h => nomatch h
  have hinf : ∀ s, Kept (.infinite s) := fun _ _ _ _ h => nomatch h
  simp [words, IsData, hnan, hinf]

theorem isData_scalar {limit : Option Nat} {t rest : Text} {v : Value} (h : scalar limit t = .ok (v, rest)) :
    IsData Kept v := by
  unfold scalar at h
  split at h
  · rename_i hw
    cases h
    obtain ⟨w, hm, hw⟩ := List.exists_of_findSome?_eq_some hw
    obtain ⟨_, -, he⟩ := Option.map_eq_some_iff.1 hw
    cases he
    exact isData_word w hm
  · unfold number at h
    split at h
    · exact isData_unsigned h
    · exact isData_unsigned h

open Dialect (strict)

/-! By induction on the fuel; the fields that are already read are data as well. -/
mutual

theorem isData_value : ∀ {fuel depth : Nat} {t rest : Text} {v : Value},
    value strict fuel depth t = .ok (v, rest) → IsData Kept v
  | 0, _, _, _, _, h => nomatch h
  | fuel + 1, depth, t, rest, v, h => by
    rw [value] at h
    split at h
    · cases h
    · obtain ⟨s, -, h⟩ := map_eq_ok_iff.1 h
      cases h
      trivial
    · rw [if_pos (mayOpen_strict depth)] at h
      split at h
      · cases h
        trivial
      · obtain ⟨vs, hvs, h⟩ := map_eq_ok_iff.1 h
        cases h
        exact areData_items hvs
    · rw [if_pos (mayOpen_strict depth)] at h
      split at h
      · cases h
        exact ⟨List.nodup_nil, trivial⟩
      · have hnil : IsData Kept (.record []) := ⟨List.nodup_nil, trivial⟩
        exact isData_fields hnil h
    · exact isData_scalar h

theorem areData_items : ∀ {fuel depth : Nat} {t rest : Text} {vs : List Value},
    items strict fuel depth t = .ok (vs, rest) → AreData Kept vs
  | 0, _, _, _, _, h => nomatch h
  | fuel + 1, depth, t, rest, vs, h => by
    rw [items] at h
    obtain ⟨⟨v, t₁⟩, hv, h⟩ := bind_eq_ok_iff.1 h
    simp only at h
    split at h
    · cases h
      exact ⟨isData_value hv, trivial⟩
    · obtain ⟨⟨vs, t₂⟩, hvs, h⟩ := bind_eq_ok_iff.1 h
      cases h
      exact ⟨isData_value hv, areData_items hvs⟩
    · cases h

theorem isData_fields : ∀ {fuel depth : Nat} {done : Fields} {t rest : Text} {v : Value},
    IsData Kept (.record done) → fields strict fuel depth done t = .ok (v, rest) → IsData Kept v
  | 0, _, _, _, _, _, _, h => nomatch h
  | fuel + 1, depth, done, t, rest, v, hd, h => by
    rw [fields] at h
    split at h
    · obtain ⟨⟨k, t₁⟩, -, h⟩ := bind_eq_ok_iff.1 h
      simp only at h
      split at h
      · obtain ⟨⟨w, t₂⟩, hw, h⟩ := bind_eq_ok_iff.1 h
        have hput := isData_put (k := k) (isData_value hw) hd
        simp only at h
        split at h
        · cases h
          exact hput
        · exact isData_fields hput h
        · cases h
      · cases h
    · cases h

end

/-- **What is read is data**, whose finite numbers are kept in the one way. -/
theorem isData_of_read {t : Text} {v : Value} (h : read t = .ok v) : IsData Kept v := by
  obtain ⟨⟨w, r⟩, hw, h⟩ := bind_eq_ok_iff.1 (mapError_eq_ok_iff.1 h)
  simp only at h
  split at h
  · cases h
    exact isData_value hw
  · cases h

/-- What is read is data as JSON has it if all its numbers are finite. -/
theorem isJson_of_read {t : Text} {v : Value} (h : read t = .ok v)
    (hf : IsData (fun x => ∃ s m e, x = .finite s m e) v) : IsJson v := by
  refine (isData_of_read h).and_imp ?_ hf
  rintro x hx ⟨s, m, e, rfl⟩
  exact hx s m e rfl

end Json
end Licensing
