import Mathlib.Data.List.Forall2
import Mathlib.Data.Option.Basic
import Licensing.Document.Listing
/-!
# Records with their fields spelled the other way

`Respelled` exchanges the spellings of some fields in some records of a value, at any depth.  Because no field is
spelled like another one, what is found under a field stays what it was (`Respells.find?`).
-/
namespace Licensing.Document

variable {α β γ δ ε : Type}

/-! ## The two spellings -/

/-- The fields of all classes. -/
def fieldKeys : List Key :=
  [idKey, laterVersionsKey, includesKey, licenseRefKey, documentRefKey, conjunctionKey, licenseKey, exceptionIdKey,
    exceptionIncludesKey, leftKey, rightKey, Include.pathKey, Include.textKey, typeKey, rawIdKey, expressionKey,
    nameKey, emailKey, yearKey, holdersKey, displayNameKey, descriptionKey, filesKey, projectKey, licensesKey,
    copyrightsKey, metadataKey]

/-- The fields that have two spellings. -/
def twoSpellings : List Key := fieldKeys.filter fun k => k.written ≠ k.name

/-- The other spelling of some of the fields. -/
def respell : List Key → Text → Text
  | [], t => t
  | k :: ks, t => if t = k.written then k.name else if t = k.name then k.written else respell ks t

/-- No other field with two spellings is spelled like this one. -/
def Key.Apart (k : Key) : Prop :=
  ∀ j ∈ twoSpellings, j = k ∨ (k.written ≠ j.written ∧ k.written ≠ j.name) ∧ k.name ≠ j.written ∧ k.name ≠ j.name

instance (k : Key) : Decidable k.Apart := inferInstanceAs (Decidable (∀ j ∈ twoSpellings, _))

theorem apart_of_mem : ∀ k ∈ fieldKeys, k.Apart := by decide +kernel

theorem mem_fieldKeys {k : Key} (h : k ∈ twoSpellings) : k ∈ fieldKeys := (List.mem_filter.1 h).1

section Respell

variable {k : Key} {ks : List Key} (hks : ks ⊆ twoSpellings)
include hks

theorem respell_of_mem (hk : k.Apart) (hm : k ∈ ks) :
    respell ks k.written = k.name ∧ respell ks k.name = k.written := by
  induction ks with
  | nil => cases hm
  | cons j ks ih =>
    obtain ⟨hj, hks⟩ := List.cons_subset.1 hks
    rcases hk j hj with rfl | ⟨⟨h₁, h₂⟩, h₃, h₄⟩
    · by_cases h : j.name = j.written <;> simp [respell, h]
    · have hne : k ≠ j := fun h => h₁ (congrArg Key.written h)
      simp only [respell, h₁, h₂, h₃, h₄, if_false]
      exact ih hks (List.mem_of_ne_of_mem hne hm)

theorem respell_of_not_mem (hk : k.Apart) (hm : k ∉ ks) :
    respell ks k.written = k.written ∧ respell ks k.name = k.name := by
  induction ks with
  | nil => exact ⟨rfl, rfl⟩
  | cons j ks ih =>
    obtain ⟨hj, hks⟩ := List.cons_subset.1 hks
    obtain ⟨hne, hm⟩ := List.ne_and_not_mem_of_not_mem_cons hm
    obtain ⟨⟨h₁, h₂⟩, h₃, h₄⟩ := (hk j hj).resolve_left fun h => hne h.symm
    simp only [respell, h₁, h₂, h₃, h₄, if_false]
    exact ih hks hm

omit hks in
theorem respell_of_other {t : Text} (h : ∀ k ∈ ks, t ≠ k.written ∧ t ≠ k.name) : respell ks t = t := by
  induction ks with
  | nil => rfl
  | cons j ks ih =>
    obtain ⟨hj, hks⟩ := List.forall_mem_cons.1 h
    rw [respell, if_neg hj.1, if_neg hj.2, ih hks]

/-- Respelling twice changes nothing. -/
theorem respell_respell (t : Text) : respell ks (respell ks t) = t := by
  by_cases h : ∃ k ∈ ks, t = k.written ∨ t = k.name
  · obtain ⟨k, hk, ht⟩ := h
    obtain ⟨hw, hn⟩ := respell_of_mem hks (apart_of_mem k (mem_fieldKeys (hks hk))) hk
    rcases ht with rfl | rfl
    · rw [hw, hn]
    · rw [hn, hw]
  · have hother : respell ks t = t := respell_of_other fun k hk => by
      constructor
      · exact fun ht => h ⟨k, hk, Or.inl ht⟩
      · exact fun ht => h ⟨k, hk, Or.inr ht⟩
    rw [hother, hother]

theorem respell_inj {s t : Text} : respell ks s = respell ks t ↔ s = t := by
  constructor
  · intro h
    rw [← respell_respell hks s, h, respell_respell hks t]
  · exact congrArg _

end Respell

mutual

/-- The values differ at most in the spelling of fields: in each record of one of them the fields `ks` are spelled the
other way, none of which it holds in both spellings. -/
inductive Respelled : Value → Value → Prop
  | same (v : Value) : Respelled v v
  | list {vs ws : List Value} : AreRespelled vs ws → Respelled (.list vs) (.list ws)
  | record {ks : List Key} {fs gs : Fields} : ks ⊆ twoSpellings →
      (∀ k ∈ ks, fs.lookup k.written = none ∨ fs.lookup k.name = none) → FieldsRespelled ks fs gs →
      Respelled (.record fs) (.record gs)

inductive AreRespelled : List Value → List Value → Prop
  | nil : AreRespelled [] []
  | cons {v w : Value} {vs ws : List Value} : Respelled v w → AreRespelled vs ws → AreRespelled (v :: vs) (w :: ws)

inductive FieldsRespelled : List Key → Fields → Fields → Prop
  | nil {ks : List Key} : FieldsRespelled ks [] []
  | cons {ks : List Key} {t : Text} {v w : Value} {fs gs : Fields} : Respelled v w → FieldsRespelled ks fs gs →
      FieldsRespelled ks ((t, v) :: fs) ((respell ks t, w) :: gs)

end

/-! ## Fields of respelled records -/

/-- The records have the same fields in the same order, those of `ks` spelled the other way, and `R` holds of the values
that stand at the same place. -/
structure Respells (ks : List Key) (R : β → γ → Prop) (fs : List (Text × β)) (gs : List (Text × γ)) : Prop where
  known : ks ⊆ twoSpellings
  single : ∀ k ∈ ks, fs.lookup k.written = none ∨ fs.lookup k.name = none
  paired : List.Forall₂ (fun p q => q.1 = respell ks p.1 ∧ R p.2 q.2) fs gs

theorem eq_none_of_rel {R : β → γ → Prop} {b : Option γ} (h : Option.Rel R none b) : b = none := by
  cases h
  rfl

theorem rel_map {R : β → γ → Prop} {S : δ → ε → Prop} {f : β → δ} {g : γ → ε} (hf : ∀ b c, R b c → S (f b) (g c))
    {a : Option β} {b : Option γ} (h : Option.Rel R a b) : Option.Rel S (a.map f) (b.map g) := by
  cases h with
  | some hr => exact .some (hf _ _ hr)
  | none => exact .none

theorem rel_or {R : β → γ → Prop} {a a' : Option β} {b b' : Option γ} (h : Option.Rel R a b)
    (h' : Option.Rel R a' b') : Option.Rel R (a.or a') (b.or b') := by
  cases h with
  | some hr => exact .some hr
  | none => simpa using h'

theorem Key.find?_eq_or (k : Key) (fs : List (Text × β)) :
    k.find? fs = ((fs.lookup k.written).map (k.written, ·)).or ((fs.lookup k.name).map (k.name, ·)) := by
  unfold find?
  cases fs.lookup k.written <;> simp

namespace Respells

variable {ks : List Key} {R : β → γ → Prop} {fs : List (Text × β)} {gs : List (Text × γ)}

theorem lookup_of_paired (hks : ks ⊆ twoSpellings)
    (h : List.Forall₂ (fun p q => q.1 = respell ks p.1 ∧ R p.2 q.2) fs gs) (t : Text) :
    Option.Rel R (fs.lookup t) (gs.lookup (respell ks t)) := by
  induction h with
  | nil => exact .none
  | @cons p q fs gs hpq _ ih =>
    obtain ⟨hkey, hvalue⟩ := hpq
    rw [List.lookup_cons, List.lookup_cons]
    by_cases ht : t = p.1
    · have hq : (respell ks t == q.1) = true := beq_iff_eq.2 (by rw [hkey, ht])
      rw [beq_iff_eq.2 ht, hq]
      exact .some hvalue
    · have hq : (respell ks t == q.1) = false := by
        rw [beq_eq_false_iff_ne, hkey, ne_eq, respell_inj hks]
        exact ht
      rw [beq_eq_false_iff_ne.2 ht, hq]
      exact ih

variable (h : Respells ks R fs gs)
include h

theorem lookup (t : Text) : Option.Rel R (fs.lookup t) (gs.lookup (respell ks t)) := lookup_of_paired h.known h.paired t

/-- A field with one spelling is found under it. -/
theorem lookup_plain {k : Key} (hk : k ∈ fieldKeys) (hname : k.name = k.written) :
    Option.Rel R (fs.lookup k.written) (gs.lookup k.written) := by
  have hm : k ∉ ks := fun hm => by simpa [hname] using (List.mem_filter.1 (h.known hm)).2
  have hlookup := h.lookup k.written
  rwa [(respell_of_not_mem h.known (apart_of_mem k hk) hm).1] at hlookup

/-- What is found under a text, with the text under which it is found. -/
theorem found (t : Text) : Option.Rel (fun p q => q.1 = respell ks p.1 ∧ R p.2 q.2) ((fs.lookup t).map (t, ·))
    ((gs.lookup (respell ks t)).map (respell ks t, ·)) :=
  rel_map (fun _ _ hr => ⟨rfl, hr⟩) (h.lookup t)

/-- **A field is found in both records**, in the other spelling if it is one of `ks`. -/
theorem find? {k : Key} (hk : k ∈ fieldKeys) :
    Option.Rel (fun p q => q.1 = respell ks p.1 ∧ R p.2 q.2) (k.find? fs) (k.find? gs) := by
  have hapart := apart_of_mem k hk
  have hwritten := h.found k.written
  have hname := h.found k.name
  rw [Key.find?_eq_or, Key.find?_eq_or]
  by_cases hm : k ∈ ks
  · -- only one of the spellings is there, so it does not matter which one comes first
    obtain ⟨hw, hn⟩ := respell_of_mem h.known hapart hm
    rw [hw] at hwritten
    rw [hn] at hname
    rcases h.single k hm with hnone | hnone
    · rw [hnone] at hwritten ⊢
      rw [eq_none_of_rel hwritten, Option.or_none]
      exact hname
    · rw [hnone] at hname ⊢
      rw [eq_none_of_rel hname, Option.map_none, Option.or_none]
      exact hwritten
  · obtain ⟨hw, hn⟩ := respell_of_not_mem h.known hapart hm
    rw [hw] at hwritten
    rw [hn] at hname
    exact rel_or hwritten hname

/-- Every field of one record belongs to it exactly if its counterpart does. -/
theorem mem_used_iff {keys : List Key} (hkeys : keys ⊆ fieldKeys) (t : Text) :
    respell ks t ∈ Key.used keys gs ↔ t ∈ Key.used keys fs := by
  have hkey : ∀ k ∈ keys, (k.find? gs).map (·.1) = ((k.find? fs).map (·.1)).map (respell ks) := fun k hk => by
    have hfind := h.find? (hkeys hk)
    generalize k.find? fs = a at hfind ⊢
    generalize k.find? gs = b at hfind ⊢
    cases hfind with
    | some hr => simp [hr.1]
    | none => rfl
  simp only [Key.used, List.mem_filterMap]
  refine exists_congr fun k => and_congr_right fun hk => ?_
  rw [hkey k hk, Option.map_eq_some_iff]
  simp [respell_inj h.known]

end Respells

theorem FieldsRespelled.paired {ks : List Key} : ∀ {fs gs : Fields}, FieldsRespelled ks fs gs →
    List.Forall₂ (fun p q => q.1 = respell ks p.1 ∧ Respelled p.2 q.2) fs gs
  | _, _, .nil => .nil
  | _, _, .cons hv hfs => .cons ⟨Eq.refl _, hv⟩ hfs.paired

theorem Respells.of_record {ks : List Key} {fs gs : Fields} (hks : ks ⊆ twoSpellings)
    (hsingle : ∀ k ∈ ks, fs.lookup k.written = none ∨ fs.lookup k.name = none) (hfs : FieldsRespelled ks fs gs) :
    Respells ks Respelled fs gs :=
  ⟨hks, hsingle, hfs.paired⟩

end Licensing.Document
