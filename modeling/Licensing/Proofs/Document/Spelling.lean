import Licensing.Proofs.Document.Respelling
import Licensing.Proofs.Document.RoundTrip
/-!
# The spelling of fields does not show

A field may be spelled in either of two ways, and records with different habits may be mixed.  Exchanging the spellings
of some fields in some records, at any depth, changes neither whether a document is accepted nor which document it is
(`ofValue_respelled`).  Only the metadata of a listing are any data at all, and kept as they came.
-/
namespace Licensing.Document

variable {α β γ δ ε : Type}

/-! ## Checks that do not see the spelling -/

/-- Both checks accept the same, or both refuse. -/
def Alike (a b : Checked α) : Prop := a.toOption = b.toOption

theorem alike_iff {a b : Checked α} : Alike a b ↔ ∀ x, a = .ok x ↔ b = .ok x := by
  rw [Alike, Option.ext_iff]
  simp only [toOption_eq_some_iff]

theorem Alike.rfl {a : Checked α} : Alike a a := Eq.refl _

theorem Alike.of_error {ps qs : List Problem} : Alike (.error ps : Checked α) (.error qs) := Eq.refl none

theorem Alike.map {a b : Checked α} (f : α → β) (h : Alike a b) : Alike (a.map f) (b.map f) := by
  have hmap : ∀ c : Checked α, (c.map f).toOption = c.toOption.map f := fun c => by
    cases c <;> simp [Except.map, Except.toOption]
  rw [Alike, hmap, hmap, h]

theorem Alike.under {a b : Checked α} (s t : Text) (h : Alike a b) : Alike (Checked.under s a) (Checked.under t b) := by
  have hunder : ∀ (t : Text) (c : Checked α), (Checked.under t c).toOption = c.toOption := fun t c => by
    cases c <;> rfl
  rw [Alike, hunder, hunder, h]

theorem Alike.tagged {a b : Checked α} (t : Text) (f : α → β) (h : Alike a b) :
    Alike (Checked.tagged t f a) (Checked.tagged t f b) :=
  (h.map f).under t t

theorem Alike.both {a a' : Checked α} {b b' : Checked β} (ha : Alike a a') (hb : Alike b b') :
    Alike (Checked.both a b) (Checked.both a' b') := by
  have hboth : ∀ (c : Checked α) (d : Checked β),
      (Checked.both c d).toOption = c.toOption.bind fun x => d.toOption.map (x, ·) := fun c d => by
    cases c <;> cases d <;> rfl
  rw [Alike, hboth, hboth, ha, hb]

section Arguments

variable {a a' : Checked α} {b b' : Checked β} {c c' : Checked γ} {d d' : Checked δ}

theorem Alike.map2 (f : α → β → ε) (ha : Alike a a') (hb : Alike b b') :
    Alike (Checked.map2 f a b) (Checked.map2 f a' b') :=
  (ha.both hb).map _

theorem Alike.map3 (f : α → β → γ → ε) (ha : Alike a a') (hb : Alike b b') (hc : Alike c c') :
    Alike (Checked.map3 f a b c) (Checked.map3 f a' b' c') :=
  (ha.both (hb.both hc)).map _

theorem Alike.map4 {η : Type} (f : α → β → γ → δ → η) (ha : Alike a a') (hb : Alike b b') (hc : Alike c c')
    (hd : Alike d d') : Alike (Checked.map4 f a b c d) (Checked.map4 f a' b' c' d') :=
  (ha.both (hb.both (hc.both hd))).map _

end Arguments

/-- The check does not see how fields are spelled. -/
def Blind (check : Value → Checked α) : Prop := ∀ v w, Respelled v w → Alike (check v) (check w)

namespace Respells

variable {ks : List Key} {R : β → γ → Prop} {fs : List (Text × β)} {gs : List (Text × γ)} (h : Respells ks R fs gs)
  {k : Key} (hk : k ∈ fieldKeys) {check : β → Checked α} {check' : γ → Checked α}
  (hc : ∀ v w, R v w → Alike (check v) (check' w))
include h hk hc

theorem required : Alike (k.required check fs) (k.required check' gs) := by
  have hfind := h.find? hk
  unfold Key.required
  generalize k.find? fs = a at hfind ⊢
  generalize k.find? gs = b at hfind ⊢
  cases hfind with
  | some hr => exact (hc _ _ hr.2).under _ _
  | none => exact .of_error

theorem withDefault (default : α) : Alike (k.withDefault default check fs) (k.withDefault default check' gs) := by
  have hfind := h.find? hk
  unfold Key.withDefault
  generalize k.find? fs = a at hfind ⊢
  generalize k.find? gs = b at hfind ⊢
  cases hfind with
  | some hr => exact (hc _ _ hr.2).under _ _
  | none => exact .rfl

omit hk hc

theorem closed {keys : List Key} (hkeys : keys ⊆ fieldKeys) : Alike (Key.closed keys fs) (Key.closed keys gs) := by
  have hall : (∀ p ∈ fs, p.1 ∈ Key.used keys fs) ↔ ∀ q ∈ gs, q.1 ∈ Key.used keys gs := by
    have hfields : ∀ {fs' : List (Text × β)} {gs' : List (Text × γ)},
        List.Forall₂ (fun p q => q.1 = respell ks p.1 ∧ R p.2 q.2) fs' gs' →
          ((∀ p ∈ fs', p.1 ∈ Key.used keys fs) ↔ ∀ q ∈ gs', q.1 ∈ Key.used keys gs) := fun hpaired => by
      induction hpaired with
      | nil => simp
      | cons hpq _ ih => rw [List.forall_mem_cons, List.forall_mem_cons, ih, hpq.1, h.mem_used_iff hkeys]
    exact hfields h.paired
  rw [alike_iff]
  rintro ⟨⟩
  rw [Key.closed_eq_ok_iff, Key.closed_eq_ok_iff, hall]

end Respells

theorem Alike.record {keys : List Key} {body : Fields → Checked α} {ks : List Key} {fs gs : Fields}
    (hkeys : keys ⊆ fieldKeys) (h : Respells ks Respelled fs gs) (hbody : Alike (body fs) (body gs)) :
    Alike (Checked.record keys body (.record fs)) (Checked.record keys body (.record gs)) := by
  unfold Checked.record
  exact .map2 _ hbody (h.closed hkeys)

namespace Blind

/-- A check that treats all lists alike and all records alike is blind. -/
theorem of_scalar {check : Value → Checked α} (hlist : ∀ vs ws, Alike (check (.list vs)) (check (.list ws)))
    (hrecord : ∀ fs gs, Alike (check (.record fs)) (check (.record gs))) : Blind check := by
  rintro v w (v | hvs | hfs)
  · exact .rfl
  · exact hlist _ _
  · exact hrecord _ _

theorem text : Blind Checked.text := of_scalar (fun _ _ => .rfl) fun _ _ => .rfl

theorem exactly (word : Text) : Blind (Checked.exactly word) := of_scalar (fun _ _ => .rfl) fun _ _ => .rfl

theorem bool : Blind Scalar.bool := of_scalar (fun _ _ => .rfl) fun _ _ => .rfl

theorem count : Blind Scalar.count := of_scalar (fun _ _ => .rfl) fun _ _ => .rfl

theorem operator : Blind Operator.ofValue := of_scalar (fun _ _ => .rfl) fun _ _ => .rfl

variable {check : Value → Checked α} (hc : Blind check)
include hc

theorem items : ∀ {vs ws : List Value}, AreRespelled vs ws → ∀ k : Nat,
    Alike (Checked.items check k vs) (Checked.items check k ws)
  | _, _, .nil, _ => .rfl
  | _, _, .cons hv hvs, k => ((hc _ _ hv).under _ _).map2 _ (items hvs (k + 1))

theorem listOf : Blind (Checked.listOf check) := by
  rintro v w (v | hvs | hfs)
  · exact .rfl
  · exact hc.items hvs 0
  · exact .rfl

theorem orNull : Blind (Key.orNull check) := by
  rintro v w (v | hvs | ⟨hks, hsingle, hfs⟩)
  · exact .rfl
  · exact (hc _ _ (.list hvs)).map some
  · exact (hc _ _ (.record hks hsingle hfs)).map some

omit hc

theorem record {keys : List Key} {body : Fields → Checked α} (hkeys : keys ⊆ fieldKeys)
    (hbody : ∀ {ks : List Key} {fs gs : Fields}, Respells ks Respelled fs gs → Alike (body fs) (body gs)) :
    Blind (Checked.record keys body) := by
  rintro v w (v | hvs | ⟨hks, hsingle, hfs⟩)
  · exact .rfl
  · exact .rfl
  · have h := Respells.of_record hks hsingle hfs
    exact .record hkeys h (hbody h)

end Blind

/-! ## Expressions -/

theorem isSome_eq_of_rel {R : β → γ → Prop} {a : Option β} {b : Option γ} (h : Option.Rel R a b) :
    a.isSome = b.isSome := by
  cases h <;> rfl

theorem Blind.filePath : Blind Include.filePath := by
  refine .record ?_ fun h => h.required ?_ Blind.text
  all_goals simp [fieldKeys]

theorem Blind.inlineText : Blind Include.inlineText := by
  refine .record ?_ fun h => h.required ?_ Blind.text
  all_goals simp [fieldKeys]

theorem isFile_eq {v w : Value} (h : Respelled v w) : Include.isFile v = Include.isFile w := by
  rcases h with v | hvs | ⟨hks, hsingle, hfs⟩
  · rfl
  · rfl
  · have hpath := (Respells.of_record hks hsingle hfs).lookup_plain (k := Include.pathKey) (by simp [fieldKeys]) rfl
    exact isSome_eq_of_rel hpath

theorem Blind.include : Blind Include.ofValue := by
  intro v w h
  rw [Include.ofValue, Include.ofValue, isFile_eq h]
  split
  · exact (Blind.filePath _ _ h).tagged _ _
  · exact (Blind.inlineText _ _ h).tagged _ _

theorem Respells.includesAt {ks : List Key} {fs gs : Fields} (h : Respells ks Respelled fs gs) {k : Key}
    (hk : k ∈ fieldKeys) : Alike (includesAt k fs) (Document.includesAt k gs) :=
  h.withDefault hk Blind.include.listOf []

theorem Blind.license : Blind License.ofValue := by
  refine .record ?_ fun h =>
    .map3 _ (h.required ?_ Blind.text) (h.withDefault ?_ Blind.bool.orNull none) (h.includesAt ?_)
  all_goals simp [fieldKeys]

theorem Blind.licenseRef : Blind LicenseRef.ofValue := by
  refine .record ?_ fun h =>
    .map3 _ (h.required ?_ Blind.text) (h.withDefault ?_ Blind.text.orNull none) (h.includesAt ?_)
  all_goals simp [fieldKeys]

theorem hasRef_eq {v w : Value} (h : Respelled v w) : Simple.hasRef v = Simple.hasRef w := by
  rcases h with v | hvs | ⟨hks, hsingle, hfs⟩
  · rfl
  · rfl
  · have href := (Respells.of_record hks hsingle hfs).find? (k := licenseRefKey) (by simp [fieldKeys])
    exact isSome_eq_of_rel href

theorem Blind.simple : Blind Simple.ofValue := by
  intro v w h
  rw [Simple.ofValue, Simple.ofValue, hasRef_eq h]
  split
  · exact (Blind.licenseRef _ _ h).tagged _ _
  · exact (Blind.license _ _ h).tagged _ _

theorem Blind.withException : Blind WithException.ofValue := by
  refine .record ?_ fun h =>
    .map4 _ (h.withDefault ?_ (Blind.exactly _) ()) (h.required ?_ Blind.simple) (h.required ?_ Blind.text)
      (h.includesAt ?_)
  all_goals simp [fieldKeys]

namespace Compound

theorem shapeOf_eq {ks : List Key} {fs gs : Fields} (h : Respells ks Respelled fs gs) : shapeOf fs = shapeOf gs := by
  have hlookup := h.lookup_plain (k := conjunctionKey) (by simp [fieldKeys]) rfl
  unfold shapeOf
  generalize fs.lookup conjunctionKey.written = a at hlookup ⊢
  generalize gs.lookup conjunctionKey.written = b at hlookup ⊢
  cases hlookup with
  | none => rfl
  | some hr => cases hr <;> rfl

/-- Where the operands are alike under either spelling, so are the conjunctions. -/
theorem alike_conjunctionOf {ks : List Key} {fs gs : Fields} (h : Respells ks Respelled fs gs)
    (hoperands : List.Forall₂ (fun p q => q.1 = respell ks p.1 ∧ Alike p.2 q.2) (ofFields fs) (ofFields gs)) :
    Alike (conjunctionOf fs (ofFields fs)) (conjunctionOf gs (ofFields gs)) := by
  have hsingle : ∀ k ∈ ks, (ofFields fs).lookup k.written = none ∨ (ofFields fs).lookup k.name = none := by
    simpa only [ofFields_eq_map, Key.lookup_map, Option.map_eq_none_iff] using h.single
  have ho : Respells ks Alike (ofFields fs) (ofFields gs) := ⟨h.known, hsingle, hoperands⟩
  have hid : ∀ a b : Checked Compound, Alike a b → Alike (id a) (id b) := fun _ _ hab => hab
  refine .map2 _ (.map3 _ (h.required ?_ Blind.operator) (ho.required ?_ hid) (ho.required ?_ hid)) (h.closed ?_)
  all_goals simp [fieldKeys]

mutual

theorem blind_ofValue : ∀ {v w : Value}, Respelled v w → Alike (ofValue v) (ofValue w)
  | _, _, .same v => .rfl
  | _, _, .list hvs => by
    rw [ofValue, ofValue]
    · exact (Blind.simple _ _ (.list hvs)).map _
    · exact nofun
    · exact nofun
  | _, _, .record hks hsingle hfs => by
    have h := Respells.of_record hks hsingle hfs
    have hv := Respelled.record hks hsingle hfs
    rw [ofValue, ofValue, shapeOf_eq h]
    split
    · exact (Blind.simple _ _ hv).map _
    · exact (Blind.withException _ _ hv).tagged _ _
    · exact (alike_conjunctionOf h (paired_ofFields hfs)).under _ _
    · exact .rfl

theorem paired_ofFields : ∀ {ks : List Key} {fs gs : Fields}, FieldsRespelled ks fs gs →
    List.Forall₂ (fun p q => q.1 = respell ks p.1 ∧ Alike p.2 q.2) (ofFields fs) (ofFields gs)
  | _, _, _, .nil => .nil
  | _, _, _, .cons hv hfs => .cons ⟨rfl, blind_ofValue hv⟩ (paired_ofFields hfs)

end

theorem blind_conjunctionOfValue : Blind conjunctionOfValue := by
  rintro v w (v | hvs | ⟨hks, hsingle, hfs⟩)
  · exact .rfl
  · exact .rfl
  · exact alike_conjunctionOf (Respells.of_record hks hsingle hfs) (paired_ofFields hfs)

end Compound

/-! ## Listings -/

theorem Blind.spdxLicense : Blind SpdxLicense.ofValue := by
  refine .record ?_ fun h =>
    .map4 _ (h.withDefault ?_ (Blind.exactly _) ()) (h.required ?_ Blind.text)
      (h.required ?_ fun _ _ => Compound.blind_ofValue) (h.includesAt ?_)
  all_goals simp [fieldKeys]

theorem Blind.arbitrary : Blind arbitraryOfValue := by
  refine .record ?_ fun h =>
    .map2 _ (h.withDefault ?_ (Blind.exactly _) ()) (h.required ?_ Blind.include.listOf)
  all_goals simp [fieldKeys]

theorem beq_text_eq {v w : Value} (h : Respelled v w) (t : Text) : (v == .text t) = (w == .text t) := by
  cases h <;> rfl

theorem Blind.groupLicense : Blind GroupLicense.ofValue := by
  rintro v w (v | hvs | @⟨ks, fs, gs, hks, hsingle, hfs⟩)
  · exact .rfl
  · exact .rfl
  · have hv := Respelled.record hks hsingle hfs
    have htype := (Respells.of_record hks hsingle hfs).lookup_plain (k := typeKey) (by simp [fieldKeys]) rfl
    simp only [GroupLicense.ofValue]
    generalize fs.lookup typeKey.written = a at htype ⊢
    generalize gs.lookup typeKey.written = b at htype ⊢
    cases htype with
    | none => exact .of_error
    | some ht =>
      simp only [beq_text_eq ht]
      split
      · exact (Blind.spdxLicense _ _ hv).tagged _ _
      · split
        · exact (Blind.arbitrary _ _ hv).tagged _ _
        · exact .of_error

theorem Blind.holder : Blind Holder.ofValue := by
  refine .record ?_ fun h =>
    .map2 _ (h.required ?_ Blind.text) (h.withDefault ?_ Blind.text.orNull none)
  all_goals simp [fieldKeys]

theorem Blind.copyright : Blind Copyright.ofValue := by
  refine .record ?_ fun h =>
    .map3 _ (h.required ?_ Blind.text) (h.withDefault ?_ Blind.count.orNull none)
      (h.withDefault ?_ Blind.holder.listOf.orNull none)
  all_goals simp [fieldKeys]

theorem Blind.project : Blind Project.ofValue := by
  refine .record ?_ fun h =>
    .map3 _ (h.required ?_ Blind.text) (h.required ?_ Blind.text) (h.withDefault ?_ Blind.text.orNull none)
  all_goals simp [fieldKeys]

theorem Blind.group : Blind Group.ofValue := by
  refine .record ?_ fun h =>
    .map2 _ (h.required ?_ Blind.filePath.listOf) (h.required ?_ Blind.groupLicense)
  all_goals simp [fieldKeys]

/-- The metadata of a listing, as they come. -/
def metadataIn : Value → Option Value
  | .record fs => fs.lookup metadataKey.written
  | _ => none

theorem optional_metadata_eq {fs gs : Fields} (h : metadataIn (.record fs) = metadataIn (.record gs)) :
    metadataKey.optional metadataOf fs = metadataKey.optional metadataOf gs := by
  have hname : metadataKey.name = metadataKey.written := Eq.refl _
  have hlookup : fs.lookup metadataKey.written = gs.lookup metadataKey.written := h
  unfold Key.optional Key.withDefault Key.find?
  rw [hname, hlookup]

theorem Listing.alike_ofValue {v w : Value} (h : Respelled v w) (hm : metadataIn v = metadataIn w) :
    Alike (ofValue v) (ofValue w) := by
  rcases h with v | hvs | ⟨hks, hsingle, hfs⟩
  · exact .rfl
  · exact .rfl
  · have h := Respells.of_record hks hsingle hfs
    have hmetadata := optional_metadata_eq hm
    refine .record ?_ h (.map4 _ (h.required ?_ Blind.project) (h.withDefault ?_ Blind.group.listOf [])
      (h.withDefault ?_ Blind.copyright.listOf []) (congrArg Except.toOption hmetadata))
    all_goals simp [fieldKeys]

/-! ## All classes -/

theorem alike_ofValue {k : Kind} {v w : Value} (h : Respelled v w) (hm : k = .listing → metadataIn v = metadataIn w) :
    Alike (ofValue k v) (ofValue k w) := by
  cases k with
  | fileRef => exact (Blind.filePath _ _ h).map _
  | inlineText => exact (Blind.inlineText _ _ h).map _
  | license => exact (Blind.license _ _ h).map _
  | licenseRef => exact (Blind.licenseRef _ _ h).map _
  | withException => exact (Blind.withException _ _ h).map _
  | conjunction => exact (Compound.blind_conjunctionOfValue _ _ h).map _
  | spdxLicense => exact (Blind.spdxLicense _ _ h).map _
  | arbitraryLicense => exact (Blind.arbitrary _ _ h).map _
  | holder => exact (Blind.holder _ _ h).map _
  | copyright => exact (Blind.copyright _ _ h).map _
  | project => exact (Blind.project _ _ h).map _
  | group => exact (Blind.group _ _ h).map _
  | listing => exact (Listing.alike_ofValue h (hm rfl)).map _

/-- **Both spellings of every field mean the same.**  Whatever fields of whatever records are spelled the other way,
outside the metadata of a listing and never so that a record holds both spellings, each class accepts the same document
or none at all, from the values and from any texts of them. -/
theorem ofValue_respelled {k : Kind} {v w : Value} (h : Respelled v w)
    (hm : k = .listing → metadataIn v = metadataIn w) :
    (∀ m, ofValue k v = .ok m ↔ ofValue k w = .ok m) ∧
      ∀ t u, Json.read t = .ok v → Json.read u = .ok w → ∀ m, ofJson k t = .ok m ↔ ofJson k u = .ok m := by
  have hvalue := alike_iff.1 (alike_ofValue h hm)
  refine ⟨hvalue, fun t u ht hu m => ?_⟩
  rw [ofJson, ofJson, ht, hu]
  exact hvalue m

theorem ofValue_respelled_in_operands :
    let text (s : String) := Value.text s.toList
    let field (s : String) (v : Value) := (s.toList, v)
    let ref (name document : String) := Value.record [field document (text "d"), field name (text "r")]
    let excepted (exception : String) (license : Value) := Value.record
      [field exception (text "x"), field "license" license, field "conjunction" (text "WITH")]
    let either (left right : Value) := Value.record
      [field "conjunction" (text "OR"), field "left" left, field "right" right]
    let spdx (rawId : String) (expression : Value) := Value.record
      [field "type" (text "spdx"), field rawId (text ""), field "expression" expression]
    let listing (license : Value) := Value.record
      [field "metadata" (.record [field "raw_id" .null, field "rawId" .null]),
        field "project" (.record [field "id" (text "p"), field "displayName" (text "P")]),
        field "licenses" (.list [.record [field "files" (.list []), field "license" license]])]
    let e := either (ref "licenseRef" "document_ref") (excepted "exception_id" (ref "licenseRef" "documentRef"))
    let e' := either (ref "license_ref" "document_ref") (excepted "exceptionId" (ref "license_ref" "document_ref"))
    let v := listing (spdx "rawId" e)
    let w := listing (spdx "raw_id" e')
    Respelled v w ∧ metadataIn v = metadataIn w ∧ ∃ m, ofValue .listing v = .ok m ∧ ofValue .listing w = .ok m := by
  intro text field ref excepted either spdx listing e e' v w
  have hleft : Respelled (ref "licenseRef" "document_ref") (ref "license_ref" "document_ref") :=
    .record (by decide +kernel : [licenseRefKey] ⊆ twoSpellings) (by decide +kernel)
      (.cons (.same _) (.cons (.same _) .nil))
  have href : Respelled (ref "licenseRef" "documentRef") (ref "license_ref" "document_ref") :=
    .record (by decide +kernel : [licenseRefKey, documentRefKey] ⊆ twoSpellings) (by decide +kernel)
      (.cons (.same _) (.cons (.same _) .nil))
  have hright : Respelled (excepted "exception_id" (ref "licenseRef" "documentRef"))
      (excepted "exceptionId" (ref "license_ref" "document_ref")) :=
    .record (by decide +kernel : [exceptionIdKey] ⊆ twoSpellings) (by decide +kernel)
      (.cons (.same _) (.cons href (.cons (.same _) .nil)))
  have he : Respelled e e' :=
    .record (List.nil_subset twoSpellings) nofun (.cons (.same _) (.cons hleft (.cons hright .nil)))
  have hspdx : Respelled (spdx "rawId" e) (spdx "raw_id" e') :=
    .record (by decide +kernel : [rawIdKey] ⊆ twoSpellings) (by decide +kernel)
      (.cons (.same _) (.cons (.same _) (.cons he .nil)))
  have hgroup : Respelled (.record [field "files" (.list []), field "license" (spdx "rawId" e)])
      (.record [field "files" (.list []), field "license" (spdx "raw_id" e')]) :=
    .record (List.nil_subset twoSpellings) nofun (.cons (.same _) (.cons hspdx .nil))
  have h : Respelled v w :=
    .record (List.nil_subset twoSpellings) nofun
      (.cons (.same _) (.cons (.same _) (.cons (.list (.cons hgroup .nil)) .nil)))
  have hm : metadataIn v = metadataIn w := rfl
  have haccepted : (ofValue .listing v).toOption.isSome := by decide +kernel
  obtain ⟨m, hv⟩ := Option.isSome_iff_exists.1 haccepted
  rw [toOption_eq_some_iff] at hv
  exact ⟨h, hm, m, hv, ((ofValue_respelled h fun _ => hm).1 m).1 hv⟩

end Licensing.Document
