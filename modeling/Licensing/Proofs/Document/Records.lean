import Licensing.Proofs.Document.RoundTrip
import Licensing.Proofs.Json.Values
/-!
# All documents are read back

Every class of record is accepted from the value that it is written as (`ofValue_toValue`), and its text holds that
value without loss.  Only the metadata of a listing are any data at all; they are kept as they came.
-/
namespace Licensing.Document

open Checked Key
open Json (IsData IsJson Lossless)

/-! ## Licenses -/

theorem separate_spdxLicense : Separate [typeKey, rawIdKey, expressionKey, includesKey] := by decide

theorem separate_arbitraryLicense : Separate [typeKey, includesKey] := by decide

theorem SpdxLicense.ofValue_toValue (l : SpdxLicense) : SpdxLicense.ofValue l.toValue = .ok l := by
  have h := separate_spdxLicense
  refine record_fieldsOf rfl h (map4_ok (x := ()) ?_ ?_ ?_ ?_)
  · exact withDefault_fieldsOf rfl h (v := .text spdxTag) (by simp) rfl
  · exact required_fieldsOf rfl h (v := .text l.rawId) (by simp) rfl
  · exact required_fieldsOf rfl h (by simp) (Compound.ofValue_toValue l.expression)
  · exact withDefault_fieldsOf rfl h (by simp) (listOf_includes l.includes)

theorem arbitraryOfValue_toValue (is : List Include) : arbitraryOfValue (arbitraryToValue is) = .ok is := by
  have h := separate_arbitraryLicense
  refine record_fieldsOf rfl h (map2_ok (x := ()) ?_ ?_)
  · exact withDefault_fieldsOf rfl h (v := .text arbitraryTag) (by simp) rfl
  · exact required_fieldsOf rfl h (by simp) (listOf_includes is)

theorem GroupLicense.ofValue_toValue (g : GroupLicense) : GroupLicense.ofValue g.toValue = .ok g := by
  cases g with
  | spdx l =>
    have h := SpdxLicense.ofValue_toValue l
    rw [toValue]
    unfold SpdxLicense.toValue at h ⊢
    rw [fieldsOf_cons_some] at h ⊢
    rw [ofValue, List.lookup_cons, beq_self_eq_true]
    simp only [beq_self_eq_true, if_true, h]
    rfl
  | arbitrary is =>
    have h := arbitraryOfValue_toValue is
    rw [toValue]
    unfold arbitraryToValue at h ⊢
    rw [fieldsOf_cons_some] at h ⊢
    rw [ofValue, List.lookup_cons, beq_self_eq_true]
    have hne : (Value.text arbitraryTag == .text spdxTag) = false := by decide
    simp only [hne, beq_self_eq_true, if_true, h]
    rfl

/-! ## Copyrights, projects and groups -/

theorem separate_holder : Separate [nameKey, emailKey] := by decide

theorem separate_copyright : Separate [Include.textKey, yearKey, holdersKey] := by decide

theorem separate_project : Separate [idKey, displayNameKey, descriptionKey] := by decide

theorem separate_group : Separate [filesKey, licenseKey] := by decide

theorem separate_listing : Separate [projectKey, licensesKey, copyrightsKey, metadataKey] := by decide

theorem Holder.ofValue_toValue (x : Holder) : Holder.ofValue x.toValue = .ok x := by
  have h := separate_holder
  refine record_fieldsOf rfl h (map2_ok ?_ ?_)
  · exact required_fieldsOf rfl h (v := .text x.name) (by simp) rfl
  · exact optional_fieldsOf rfl h (f := .text) (by simp) (fun t => nofun) fun t => rfl

theorem count_natCast (n : Nat) : Scalar.count (.int n) = .ok n := by
  show (if (n : Int) < 0 then refuse .greaterThanEqual else .ok (n : Int).toNat) = _
  rw [if_neg (by omega), Int.toNat_natCast]

theorem Copyright.ofValue_toValue (c : Copyright) : Copyright.ofValue c.toValue = .ok c := by
  have h := separate_copyright
  refine record_fieldsOf rfl h (map3_ok ?_ ?_ ?_)
  · exact required_fieldsOf rfl h (v := .text c.text) (by simp) rfl
  · exact optional_fieldsOf rfl h (f := fun n : Nat => .int n) (by simp) (fun n => nofun) count_natCast
  · exact optional_fieldsOf rfl h (f := fun hs => .list (hs.map Holder.toValue)) (by simp) (fun hs => nofun)
      (listOf_map Holder.ofValue_toValue)

theorem Project.ofValue_toValue (p : Project) : Project.ofValue p.toValue = .ok p := by
  have h := separate_project
  refine record_fieldsOf rfl h (map3_ok ?_ ?_ ?_)
  · exact required_fieldsOf rfl h (v := .text p.id) (by simp) rfl
  · exact required_fieldsOf rfl h (v := .text p.displayName) (by simp) rfl
  · exact optional_fieldsOf rfl h (f := .text) (by simp) (fun t => nofun) fun t => rfl

theorem filePath_toValue (p : Text) : Include.filePath (Include.file p).toValue = .ok p := rfl

theorem Group.ofValue_toValue (g : Group) : Group.ofValue g.toValue = .ok g := by
  have h := separate_group
  refine record_fieldsOf rfl h (map2_ok ?_ ?_)
  · exact required_fieldsOf rfl h (by simp) (listOf_map filePath_toValue g.files)
  · exact required_fieldsOf rfl h (by simp) (GroupLicense.ofValue_toValue g.license)

theorem Listing.ofValue_toValue (l : Listing) : Listing.ofValue l.toValue = .ok l := by
  have h := separate_listing
  refine record_fieldsOf rfl h (map4_ok ?_ ?_ ?_ ?_)
  · exact required_fieldsOf rfl h (by simp) (Project.ofValue_toValue l.project)
  · exact withDefault_fieldsOf rfl h (by simp) (listOf_map Group.ofValue_toValue l.licenses)
  · exact withDefault_fieldsOf rfl h (by simp) (listOf_map Copyright.ofValue_toValue l.copyrights)
  · exact optional_fieldsOf rfl h (f := .record) (by simp) (fun fs => nofun) fun fs => rfl

/-! ## Texts -/

theorem SpdxLicense.lossless_toValue (l : SpdxLicense) : Lossless l.toValue := by
  refine lossless_fieldsOf rfl separate_spdxLicense ?_
  simp [Lossless, Include.lossless_listValue, Compound.lossless_toValue]

theorem lossless_arbitraryToValue (is : List Include) : Lossless (arbitraryToValue is) := by
  refine lossless_fieldsOf rfl separate_arbitraryLicense ?_
  simp [Lossless, Include.lossless_listValue]

theorem GroupLicense.lossless_toValue (g : GroupLicense) : Lossless g.toValue := by
  cases g with
  | spdx l => exact l.lossless_toValue
  | arbitrary is => exact lossless_arbitraryToValue is

theorem Holder.lossless_toValue (x : Holder) : Lossless x.toValue := by
  refine lossless_fieldsOf rfl separate_holder ?_
  simp [Lossless]

theorem lossless_list_map {α : Type} {f : α → Value} (hf : ∀ a, Lossless (f a)) (as : List α) :
    Lossless (.list (as.map f)) := by
  rw [Json.lossless_list_iff, List.forall_mem_map]
  exact fun a _ => hf a

theorem Copyright.lossless_toValue (c : Copyright) : Lossless c.toValue := by
  have hholders := lossless_map (lossless_list_map Holder.lossless_toValue) c.holders
  refine lossless_fieldsOf rfl separate_copyright ?_
  simpa [Lossless] using hholders

theorem Project.lossless_toValue (p : Project) : Lossless p.toValue := by
  refine lossless_fieldsOf rfl separate_project ?_
  simp [Lossless]

theorem Group.lossless_toValue (g : Group) : Lossless g.toValue := by
  have hfiles := lossless_list_map (fun p : Text => (Include.file p).lossless_toValue) g.files
  refine lossless_fieldsOf rfl separate_group ?_
  simp [hfiles, GroupLicense.lossless_toValue]

theorem Listing.lossless_toValue (l : Listing) (h : ∀ fs ∈ l.metadata, Lossless (.record fs)) : Lossless l.toValue := by
  have hmetadata : ∀ v ∈ l.metadata.map Value.record, Lossless v := by
    intro v hv
    obtain ⟨fs, hfs, rfl⟩ := Option.map_eq_some_iff.1 hv
    exact h fs hfs
  have hlicenses := lossless_list_map Group.lossless_toValue l.licenses
  have hcopyrights := lossless_list_map Copyright.lossless_toValue l.copyrights
  refine lossless_fieldsOf rfl separate_listing ?_
  simpa [Project.lossless_toValue, hlicenses, hcopyrights] using hmetadata

/-! ## All classes -/

/-- The class of a document. -/
def kind : Document → Kind
  | fileRef _ => .fileRef
  | inlineText _ => .inlineText
  | license _ => .license
  | licenseRef _ => .licenseRef
  | withException _ => .withException
  | conjunction _ _ _ => .conjunction
  | spdxLicense _ => .spdxLicense
  | arbitraryLicense _ => .arbitraryLicense
  | holder _ => .holder
  | copyright _ => .copyright
  | project _ => .project
  | group _ => .group
  | listing _ => .listing

/-- Data of a document that no class has a say in. -/
def metadata? : Document → Option Fields
  | listing l => l.metadata
  | _ => none

/-- **A document is accepted from the value that it is written as**, by its own class. -/
theorem ofValue_toValue (m : Document) : ofValue m.kind m.toValue = .ok m := by
  cases m with
  | fileRef p => rfl
  | inlineText t => rfl
  | license l => exact congrArg (Except.map _) l.ofValue_toValue
  | licenseRef r => exact congrArg (Except.map _) r.ofValue_toValue
  | withException w => exact congrArg (Except.map _) w.ofValue_toValue
  | conjunction o l r =>
    exact congrArg (Except.map ofCompound)
      (Compound.conjunctionOfValue_toValue o (Compound.ofValue_toValue l) (Compound.ofValue_toValue r))
  | spdxLicense l => exact congrArg (Except.map _) l.ofValue_toValue
  | arbitraryLicense is => exact congrArg (Except.map _) (arbitraryOfValue_toValue is)
  | holder x => exact congrArg (Except.map _) x.ofValue_toValue
  | copyright c => exact congrArg (Except.map _) c.ofValue_toValue
  | project p => exact congrArg (Except.map _) p.ofValue_toValue
  | group g => exact congrArg (Except.map _) g.ofValue_toValue
  | listing l => exact congrArg (Except.map _) l.ofValue_toValue

theorem lossless_toValue (m : Document) (h : ∀ fs ∈ m.metadata?, Lossless (.record fs)) : Lossless m.toValue := by
  cases m with
  | fileRef p => exact (Include.file p).lossless_toValue
  | inlineText t => exact (Include.text t).lossless_toValue
  | license l => exact l.lossless_toValue
  | licenseRef r => exact r.lossless_toValue
  | withException w => exact Compound.lossless_toValue (.withException w)
  | conjunction o l r => exact Compound.lossless_toValue (.conjunction o l r)
  | spdxLicense l => exact l.lossless_toValue
  | arbitraryLicense is => exact lossless_arbitraryToValue is
  | holder x => exact x.lossless_toValue
  | copyright c => exact c.lossless_toValue
  | project p => exact p.lossless_toValue
  | group g => exact g.lossless_toValue
  | listing l => exact l.lossless_toValue h

/-! ## What is accepted -/

variable {k : Kind} {v : Value} {m : Document}

theorem Checked.both_eq_ok_iff {α β : Type} {a : Checked α} {b : Checked β} {p : α × β} :
    both a b = .ok p ↔ a = .ok p.1 ∧ b = .ok p.2 := by
  obtain ⟨x, y⟩ := p
  cases a <;> cases b <;> simp [both]

theorem Checked.record_eq_ok {α : Type} {keys : List Key} {body : Fields → Checked α} {a : α}
    (h : record keys body v = .ok a) : ∃ fs, v = .record fs ∧ body fs = .ok a := by
  unfold record at h
  split at h
  · rename_i fs
    obtain ⟨p, hp, rfl⟩ := map_eq_ok_iff.1 h
    exact ⟨fs, rfl, (both_eq_ok_iff.1 hp).1⟩
  · cases h

theorem Key.mem_of_find? {β : Type} {key : Key} {fs : List (Text × β)} {p : Text × β} (h : key.find? fs = some p) :
    p ∈ fs := by
  have hmem : ∀ {t : Text} {b : β}, fs.lookup t = some b → (t, b) ∈ fs := fun hl => by
    obtain ⟨l₁, l₂, rfl, -⟩ := List.lookup_eq_some_iff.1 hl
    exact List.mem_append_right _ List.mem_cons_self
  unfold find? at h
  split at h
  · cases h
    exact hmem ‹_›
  · obtain ⟨b, hb, rfl⟩ := Option.map_eq_some_iff.1 h
    exact hmem hb

/-- The metadata of a listing are a field of the record it was read from. -/
theorem Listing.mem_of_ofValue {l : Listing} {md : Fields} (h : Listing.ofValue v = .ok l) (hm : l.metadata = some md) :
    ∃ fs t, v = .record fs ∧ (t, .record md) ∈ fs := by
  obtain ⟨fs, rfl, hbody⟩ := Checked.record_eq_ok h
  obtain ⟨p, hp, rfl⟩ := map_eq_ok_iff.1 hbody
  obtain ⟨-, hp⟩ := Checked.both_eq_ok_iff.1 hp
  obtain ⟨-, hp⟩ := Checked.both_eq_ok_iff.1 hp
  obtain ⟨-, hp⟩ := Checked.both_eq_ok_iff.1 hp
  simp only at hm
  rw [hm, Key.optional, Key.withDefault] at hp
  split at hp
  · cases hp
  · rename_i found w hw
    refine ⟨fs, found, rfl, ?_⟩
    have hr : w = .record md := by
      unfold orNull at hp
      split at hp
      · cases hp
      · unfold metadataOf at hp
        split at hp
        · cases hp
          rfl
        · cases hp
    exact hr ▸ Key.mem_of_find? hw

/-- Metadata are data if what they were read from is. -/
theorem isData_metadata {p : Binary64 → Prop} (hv : IsData p v) (h : ofValue k v = .ok m) :
    ∀ md ∈ m.metadata?, IsData p (.record md) := by
  intro md hmd
  cases k with
  | listing =>
    obtain ⟨l, hl, rfl⟩ := map_eq_ok_iff.1 h
    obtain ⟨fs, t, rfl, hm⟩ := Listing.mem_of_ofValue hl hmd
    exact (Json.isData_record_iff.1 hv).2 _ hm
  | conjunction =>
    obtain ⟨c, -, rfl⟩ := map_eq_ok_iff.1 h
    rcases c with (l | r) | w | ⟨o, l, r⟩ <;> cases hmd
  | _ =>
    obtain ⟨a, -, rfl⟩ := map_eq_ok_iff.1 h
    cases hmd

/-- A document that is accepted is of the class that it was read as. -/
theorem kind_of_ofValue (h : ofValue k v = .ok m) : m.kind = k := by
  cases k with
  | conjunction =>
    obtain ⟨c, hc, rfl⟩ := map_eq_ok_iff.1 h
    unfold Compound.conjunctionOfValue at hc
    split at hc
    · obtain ⟨p, hp, rfl⟩ := map_eq_ok_iff.1 hc
      obtain ⟨q, -, hq⟩ := map_eq_ok_iff.1 (Checked.both_eq_ok_iff.1 hp).1
      simp only [← hq]
      rfl
    · cases hc
  | _ =>
    obtain ⟨a, -, rfl⟩ := map_eq_ok_iff.1 h
    rfl

/-- The text of a document denotes its value and is accepted as the same document, which is written as the same text
again. -/
structure ReadsBack (k : Kind) (m : Document) (indent : Option Nat) : Prop where
  denotes : Json.read (m.toJson indent) = .ok m.toValue
  accepted : ofJson k (m.toJson indent) = .ok m
  again : ∀ m', ofJson k (m.toJson indent) = .ok m' → m'.toJson indent = m.toJson indent

theorem readsBack_of_isJson (hv : IsJson v) (h : ofValue k v = .ok m) (indent : Option Nat) : ReadsBack k m indent := by
  have hread : Json.read (m.toJson indent) = .ok m.toValue :=
    Json.read_render (Json.Layout.spaced_ofIndent indent)
      (lossless_toValue m fun md hmd => Json.lossless_of_isJson (isData_metadata hv h md hmd))
  have hback : ofJson k (m.toJson indent) = .ok m := by
    rw [ofJson, hread, ← kind_of_ofValue h]
    exact ofValue_toValue m
  refine ⟨hread, hback, fun m' h' => ?_⟩
  cases hback.symm.trans h'
  rfl

end Licensing.Document
