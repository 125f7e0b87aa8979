import Licensing.Document.Checked
/-!
# Written records are read field by field

A record that is written from a list of keys and values holds, under each key, the value that was written for it, and
nothing that does not belong (`record_fieldsOf`), provided that no key of the list is spelled like another.
-/
namespace Licensing.Document

variable {α β γ δ ε : Type}

/-- No key is spelled like another one. -/
def Separate (keys : List Key) : Prop :=
  keys.Pairwise fun k j => k.written ≠ j.written ∧ k.name ≠ j.written ∧ j.name ≠ k.written

instance (keys : List Key) : Decidable (Separate keys) := inferInstanceAs (Decidable (List.Pairwise _ _))

theorem fieldsOf_cons_none (k : Key) (fs : List (Key × Option Value)) : fieldsOf ((k, none) :: fs) = fieldsOf fs := rfl

theorem fieldsOf_cons_some (k : Key) (v : Value) (fs : List (Key × Option Value)) :
    fieldsOf ((k, some v) :: fs) = (k.written, v) :: fieldsOf fs := rfl

theorem mem_fieldsOf_iff {fs : List (Key × Option Value)} {q : Text × Value} :
    q ∈ fieldsOf fs ↔ ∃ k v, (k, some v) ∈ fs ∧ q = (k.written, v) := by
  rw [fieldsOf, List.mem_filterMap]
  constructor
  · rintro ⟨⟨k, o⟩, hm, ho⟩
    obtain ⟨v, rfl, rfl⟩ := Option.map_eq_some_iff.1 ho
    exact ⟨k, v, hm, rfl⟩
  · rintro ⟨k, v, hm, rfl⟩
    exact ⟨(k, some v), hm, rfl⟩

/-- A written record holds no key twice. -/
theorem nodup_fieldsOf : ∀ {fs : List (Key × Option Value)}, Separate (fs.map (·.1)) →
    ((fieldsOf fs).map (·.1)).Nodup
  | [], _ => List.nodup_nil
  | (k, none) :: fs, h => by
    rw [fieldsOf_cons_none]
    exact nodup_fieldsOf (List.pairwise_cons.1 h).2
  | (k, some v) :: fs, h => by
    obtain ⟨hk, hfs⟩ := List.pairwise_cons.1 h
    refine List.nodup_cons.2 ⟨fun hm => ?_, nodup_fieldsOf hfs⟩
    obtain ⟨q, hq, he⟩ := List.mem_map.1 hm
    obtain ⟨j, w, hj, rfl⟩ := mem_fieldsOf_iff.1 hq
    exact (hk j (List.mem_map_of_mem hj)).1 he.symm

theorem lookup_fieldsOf_eq_none {t : Text} : ∀ {fs : List (Key × Option Value)}, (∀ k ∈ fs.map (·.1), t ≠ k.written) →
    (fieldsOf fs).lookup t = none
  | [], _ => rfl
  | (k, none) :: fs, h => by
    rw [fieldsOf_cons_none]
    exact lookup_fieldsOf_eq_none fun j hj => h j (List.mem_cons_of_mem k hj)
  | (k, some v) :: fs, h => by
    have hk : (t == k.written) = false := beq_eq_false_iff_ne.2 (h k List.mem_cons_self)
    rw [fieldsOf_cons_some, List.lookup_cons, hk]
    exact lookup_fieldsOf_eq_none fun j hj => h j (List.mem_cons_of_mem k hj)

namespace Key

/-- A field of another key in front changes nothing. -/
theorem find?_cons_of_ne {k : Key} {t : Text} {b : β} {fs : List (Text × β)} (hw : k.written ≠ t) (hn : k.name ≠ t) :
    k.find? ((t, b) :: fs) = k.find? fs := by
  rw [find?, find?, List.lookup_cons, List.lookup_cons, beq_eq_false_iff_ne.2 hw, beq_eq_false_iff_ne.2 hn]

theorem find?_self (k : Key) (b : β) (fs : List (Text × β)) : k.find? ((k.written, b) :: fs) = some (k.written, b) := by
  rw [find?, List.lookup_cons, beq_self_eq_true]

/-- **Under each key stands the value that was written for it.** -/
theorem find?_fieldsOf : ∀ {fs : List (Key × Option Value)}, Separate (fs.map (·.1)) → ∀ {k : Key} {o : Option Value},
    (k, o) ∈ fs → k.find? (fieldsOf fs) = o.map fun v => (k.written, v)
  | (j, p) :: fs, h, k, o, hm => by
    have hp := List.pairwise_cons.1 h
    rcases List.mem_cons.1 hm with he | hm
    · obtain ⟨rfl, rfl⟩ := Prod.mk.inj he
      cases o with
      | none =>
        have hw := lookup_fieldsOf_eq_none (t := k.written) fun j hj => (hp.1 j hj).1
        have hn := lookup_fieldsOf_eq_none (t := k.name) fun j hj => (hp.1 j hj).2.1
        rw [fieldsOf_cons_none, find?, hw, hn]
        rfl
      | some v => exact find?_self k v (fieldsOf fs)
    · have hj := hp.1 k (List.mem_map_of_mem hm)
      have ih : k.find? (fieldsOf fs) = _ := find?_fieldsOf hp.2 hm
      cases p with
      | none => exact ih
      | some w => rw [fieldsOf_cons_some, find?_cons_of_ne (Ne.symm hj.1) hj.2.2, ih]

theorem lookup_map (t : Text) (f : α → β) : ∀ fs : List (Text × α),
    (fs.map fun p => (p.1, f p.2)).lookup t = (fs.lookup t).map f
  | [] => rfl
  | (k, a) :: fs => by
    rw [List.map_cons, List.lookup_cons, List.lookup_cons, lookup_map t f fs]
    cases t == k <;> rfl

theorem find?_map (k : Key) (f : α → β) (fs : List (Text × α)) :
    k.find? (fs.map fun p => (p.1, f p.2)) = (k.find? fs).map fun q => (q.1, f q.2) := by
  rw [find?, find?, lookup_map, lookup_map]
  cases fs.lookup k.written with
  | some a => rfl
  | none => cases fs.lookup k.name <;> rfl

/-- A check of what the values were mapped to is a check of the values. -/
theorem required_map (k : Key) (check : β → Checked γ) (f : α → β) (fs : List (Text × α)) :
    k.required check (fs.map fun p => (p.1, f p.2)) = k.required (fun a => check (f a)) fs := by
  rw [required, required, find?_map]
  cases k.find? fs <;> rfl

/-- **A record is closed if all its fields belong to it**, and only then. -/
theorem closed_eq_ok_iff {keys : List Key} {fs : List (Text × β)} :
    closed keys fs = .ok () ↔ ∀ p ∈ fs, p.1 ∈ used keys fs := by
  have hextra : (fs.map (·.1)).filter (fun t => !(used keys fs).contains t) = [] ↔ ∀ p ∈ fs, p.1 ∈ used keys fs := by
    simp
  rw [← hextra, closed]
  cases (fs.map (·.1)).filter (fun t => !(used keys fs).contains t) with
  | nil => exact iff_of_true rfl rfl
  | cons t ts => exact iff_of_false nofun nofun

theorem closed_fieldsOf {keys : List Key} {fs : List (Key × Option Value)} (hkeys : fs.map (·.1) = keys)
    (h : Separate keys) : closed keys (fieldsOf fs) = .ok () := by
  subst hkeys
  rw [closed_eq_ok_iff]
  intro p hp
  obtain ⟨k, v, hm, rfl⟩ := mem_fieldsOf_iff.1 hp
  refine List.mem_filterMap.2 ⟨k, List.mem_map_of_mem hm, ?_⟩
  rw [find?_fieldsOf h hm]
  rfl

variable {keys : List Key} {fs : List (Key × Option Value)} {k : Key} {check : Value → Checked α}

theorem required_fieldsOf {v : Value} {a : α} (hkeys : fs.map (·.1) = keys) (h : Separate keys) (hm : (k, some v) ∈ fs)
    (hc : check v = .ok a) : k.required check (fieldsOf fs) = .ok a := by
  subst hkeys
  rw [required, find?_fieldsOf h hm]
  simp only [Option.map_some, hc]
  rfl

theorem withDefault_fieldsOf {v : Value} {a d : α} (hkeys : fs.map (·.1) = keys) (h : Separate keys)
    (hm : (k, some v) ∈ fs) (hc : check v = .ok a) : k.withDefault d check (fieldsOf fs) = .ok a := by
  subst hkeys
  rw [withDefault, find?_fieldsOf h hm]
  simp only [Option.map_some, hc]
  rfl

/-- A value that may be absent comes back, provided that it is not written as null. -/
theorem optional_fieldsOf {f : α → Value} {o : Option α} (hkeys : fs.map (·.1) = keys) (h : Separate keys)
    (hm : (k, o.map f) ∈ fs) (hf : ∀ a, f a ≠ .null) (hc : ∀ a, check (f a) = .ok a) :
    k.optional check (fieldsOf fs) = .ok o := by
  subst hkeys
  rw [optional, withDefault, find?_fieldsOf h hm]
  cases o with
  | none => rfl
  | some a =>
    have hn : orNull check (f a) = .ok (some a) := by
      rw [orNull]
      · rw [hc]
        rfl
      · exact hf a
    simp only [Option.map_some, hn]
    rfl

end Key

namespace Checked

theorem map2_ok {f : α → β → γ} {a : Checked α} {b : Checked β} {x : α} {y : β} (ha : a = .ok x) (hb : b = .ok y) :
    map2 f a b = .ok (f x y) := by
  rw [ha, hb]
  rfl

theorem map3_ok {f : α → β → γ → δ} {a : Checked α} {b : Checked β} {c : Checked γ} {x : α} {y : β} {z : γ}
    (ha : a = .ok x) (hb : b = .ok y) (hc : c = .ok z) : map3 f a b c = .ok (f x y z) := by
  rw [ha, hb, hc]
  rfl

theorem map4_ok {f : α → β → γ → δ → ε} {a : Checked α} {b : Checked β} {c : Checked γ} {d : Checked δ} {x : α} {y : β}
    {z : γ} {w : δ} (ha : a = .ok x) (hb : b = .ok y) (hc : c = .ok z) (hd : d = .ok w) :
    map4 f a b c d = .ok (f x y z w) := by
  rw [ha, hb, hc, hd]
  rfl

/-- **A written record passes the check of its keys.** -/
theorem record_fieldsOf {keys : List Key} {fs : List (Key × Option Value)} {body : Fields → Checked α} {a : α}
    (hkeys : fs.map (·.1) = keys) (h : Separate keys) (hb : body (fieldsOf fs) = .ok a) :
    record keys body (.record (fieldsOf fs)) = .ok a := by
  rw [record]
  exact map2_ok hb (Key.closed_fieldsOf hkeys h)

/-- Items that are accepted one by one are accepted as a list. -/
theorem items_map {check : Value → Checked α} {f : α → Value} (h : ∀ a, check (f a) = .ok a) :
    ∀ (k : Nat) (as : List α), items check k (as.map f) = .ok as
  | _, [] => rfl
  | k, a :: as => by
    rw [List.map_cons, items, h, items_map h (k + 1) as]
    rfl

theorem listOf_map {check : Value → Checked α} {f : α → Value} (h : ∀ a, check (f a) = .ok a) (as : List α) :
    listOf check (.list (as.map f)) = .ok as :=
  items_map h 0 as

end Checked
end Licensing.Document
