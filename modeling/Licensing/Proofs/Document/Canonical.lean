import Licensing.Proofs.Document.Decoding
/-!
# Canonical documents

Decoding a document of an expression and encoding the expression again changes nothing but spellings: the identifiers
become those of the registries, the evidence goes, and so does an or-later flag that is not set
(`Compound.ofExpr_of_toExpr`).  Where decoding fails, the error is that of the first field that its check refuses
(`Compound.toExpr_eq_error_iff`), the fields being taken from left to right.
-/
namespace Licensing

namespace Registry

/-- The entry that is equal to a text but for the case of ASCII letters, and the text itself if there is none. -/
def spelling (ids : List Text) (t : Text) : Text := (ids.find? fun n => n.folded = t.folded).getD t

theorem spelling_of_names {ids : List Text} (hids : Tidy ids) {t n : Text} (h : Names ids t n) :
    spelling ids t = n := by
  rw [spelling, (find?_folded_eq_some_iff hids).2 h, Option.getD_some]

theorem spelling_eq_self {ids : List Text} {t : Text} (h : ∀ n, ¬ Names ids t n) : spelling ids t = t := by
  have hnone : (ids.find? fun m => m.folded = t.folded) = none := by
    simp only [List.find?_eq_none, decide_eq_true_eq]
    exact fun n hn hf => h n ⟨hn, hf⟩
  rw [spelling, hnone, Option.getD_none]

/-- **The spelling of an entry is its own.** -/
theorem spelling_spelling {ids : List Text} (hids : Tidy ids) (t : Text) :
    spelling ids (spelling ids t) = spelling ids t := by
  by_cases h : ∃ n, Names ids t n
  · obtain ⟨n, hn⟩ := h
    rw [spelling_of_names hids hn, spelling_of_names hids (Names.self hn.1)]
  · rw [spelling_eq_self fun n hn => h ⟨n, hn⟩, spelling_eq_self fun n hn => h ⟨n, hn⟩]

end Registry

namespace Document

open Registry (Names licenses exceptions spelling)

/-! ## The fields that are checked -/

/-- A field of a document whose text has to be an identifier. -/
inductive Field
  | licenseId (t : Text)
  | exceptionId (t : Text)
  | licenseRef (t : Text)
  | documentRef (t : Text)
  deriving DecidableEq, Repr

namespace Field

/-- What the text of a field has to be: but for the case of ASCII letters an entry of its registry, or an idstring. -/
def Valid : Field → Prop
  | .licenseId t => ∃ n, Names licenses t n
  | .exceptionId t => ∃ n, Names exceptions t n
  | .licenseRef t => Identifier.IsIdString t
  | .documentRef t => Identifier.IsIdString t

/-- The check of a field, which hands back its text in the spelling of the registry. -/
def check : Field → Except ParseError Text
  | .licenseId t => Identifier.licenseName t
  | .exceptionId t => Identifier.exceptionId t
  | .licenseRef t => Identifier.idString t
  | .documentRef t => Identifier.idString t

theorem valid_iff {f : Field} : f.Valid ↔ ∃ t, f.check = .ok t := by
  cases f with
  | licenseId t => simp only [Valid, check, Identifier.licenseName_eq_ok_iff]
  | exceptionId t => simp only [Valid, check, Identifier.exceptionId_eq_ok_iff]
  | licenseRef t => simp [Valid, check, Identifier.idString_eq_ok_iff]
  | documentRef t => simp [Valid, check, Identifier.idString_eq_ok_iff]

end Field

/-- The fields of a license: the name of a reference comes before its document. -/
def Simple.fields : Simple → List Field
  | .license l => [.licenseId l.id]
  | .ref r => .licenseRef r.name :: (r.document.map Field.documentRef).toList

/-- The fields of a document from left to right, a license before its exception. -/
def Compound.fields : Compound → List Field
  | .simple s => s.fields
  | .withException w => w.license.fields ++ [.exceptionId w.exceptionId]
  | .conjunction _ l r => l.fields ++ r.fields

/-- The error is that of the first field that is refused. -/
def FirstRefused (fs : List Field) (e : ParseError) : Prop :=
  ∃ before f after, fs = before ++ f :: after ∧ (∀ g ∈ before, g.Valid) ∧ f.check = .error e

theorem not_firstRefused_nil {e : ParseError} : ¬ FirstRefused [] e := by
  rintro ⟨before, f, after, h, -⟩
  cases before <;> cases h

theorem firstRefused_cons_iff {f : Field} {fs : List Field} {e : ParseError} :
    FirstRefused (f :: fs) e ↔ f.check = .error e ∨ (f.Valid ∧ FirstRefused fs e) := by
  constructor
  · rintro ⟨before, g, after, h, hvalid, hg⟩
    cases before with
    | nil =>
      obtain ⟨rfl, -⟩ := List.cons.inj h
      exact Or.inl hg
    | cons b before =>
      obtain ⟨rfl, rfl⟩ := List.cons.inj h
      rw [List.forall_mem_cons] at hvalid
      exact Or.inr ⟨hvalid.1, before, g, after, rfl, hvalid.2, hg⟩
  · rintro (h | ⟨hf, before, g, after, rfl, hvalid, hg⟩)
    · exact ⟨[], f, fs, rfl, by simp, h⟩
    · exact ⟨f :: before, g, after, rfl, List.forall_mem_cons.2 ⟨hf, hvalid⟩, hg⟩

theorem firstRefused_singleton_iff {f : Field} {e : ParseError} : FirstRefused [f] e ↔ f.check = .error e := by
  simp [firstRefused_cons_iff, not_firstRefused_nil]

theorem firstRefused_append_iff {e : ParseError} {gs : List Field} : ∀ {fs : List Field},
    FirstRefused (fs ++ gs) e ↔ FirstRefused fs e ∨ ((∀ f ∈ fs, f.Valid) ∧ FirstRefused gs e)
  | [] => by simp [not_firstRefused_nil]
  | f :: fs => by
    rw [List.cons_append, firstRefused_cons_iff, firstRefused_cons_iff, firstRefused_append_iff, List.forall_mem_cons]
    tauto

/-! ## When decoding fails -/

theorem Simple.exists_toLicense_iff {s : Simple} : (∃ r, s.toLicense = .ok r) ↔ ∀ f ∈ s.fields, f.Valid := by
  cases s with
  | license l => simp [toLicense_license_eq_ok_iff, fields, Field.Valid]
  | ref r =>
    simp only [toLicense_ref_eq_ok_iff, exists_eq_left, Identifier.IsReference, fields, List.forall_mem_cons]
    cases r.document <;> simp [Field.Valid]

theorem documentName_eq_error_iff {d : Option Text} {e : ParseError} :
    documentName d = .error e ↔ FirstRefused (d.map Field.documentRef).toList e := by
  cases d with
  | none => simp [documentName, not_firstRefused_nil]
  | some d =>
    have hcheck : (Field.documentRef d).check = Identifier.idString d := rfl
    simp [documentName, map_eq_error_iff, firstRefused_singleton_iff, hcheck]

theorem Simple.toLicense_eq_error_iff {s : Simple} {e : ParseError} :
    s.toLicense = .error e ↔ FirstRefused s.fields e := by
  cases s with
  | license l =>
    have hcheck : (Field.licenseId l.id).check = Identifier.licenseName l.id := rfl
    rw [fields, firstRefused_singleton_iff, hcheck]
    exact map_eq_error_iff
  | ref r =>
    have hcheck : (Field.licenseRef r.name).check = Identifier.idString r.name := rfl
    rw [fields, firstRefused_cons_iff, Field.valid_iff, hcheck, ← documentName_eq_error_iff]
    simp only [toLicense, bind_eq_error_iff (x := Identifier.idString r.name), bind_pure_eq_error_iff, exists_and_right]

/-- **A document is decoded exactly if all its fields are valid.** -/
theorem Compound.exists_toExpr_iff : ∀ {c : Compound}, (∃ e, c.toExpr = .ok e) ↔ ∀ f ∈ c.fields, f.Valid
  | .simple s => by
    rw [fields, ← Simple.exists_toLicense_iff]
    simp [toExpr, map_eq_ok_iff]
  | .withException w => by
    rw [fields, List.forall_mem_append, ← Simple.exists_toLicense_iff, List.forall_mem_singleton, Field.valid_iff]
    simp only [toExpr, bind_eq_ok_iff]
    constructor
    · rintro ⟨e, s, hs, x, hx, -⟩
      exact ⟨⟨s, hs⟩, x, hx⟩
    · rintro ⟨⟨s, hs⟩, x, hx⟩
      exact ⟨_, s, hs, x, hx, rfl⟩
  | .conjunction o l r => by
    rw [fields, List.forall_mem_append, ← exists_toExpr_iff, ← exists_toExpr_iff]
    simp only [toExpr, bind_eq_ok_iff]
    constructor
    · rintro ⟨e, a, ha, b, hb, -⟩
      exact ⟨⟨a, ha⟩, b, hb⟩
    · rintro ⟨⟨a, ha⟩, b, hb⟩
      exact ⟨_, a, ha, b, hb, rfl⟩

/-- **The error of decoding is that of the first field that is refused.** -/
theorem Compound.toExpr_eq_error_iff {e : ParseError} : ∀ {c : Compound},
    c.toExpr = .error e ↔ FirstRefused c.fields e
  | .simple s => map_eq_error_iff.trans Simple.toLicense_eq_error_iff
  | .withException w => by
    have hcheck : (Field.exceptionId w.exceptionId).check = Identifier.exceptionId w.exceptionId := rfl
    rw [fields, firstRefused_append_iff, ← Simple.exists_toLicense_iff, ← Simple.toLicense_eq_error_iff,
      firstRefused_singleton_iff, hcheck]
    simp only [toExpr, bind_eq_error_iff (x := w.license.toLicense), bind_pure_eq_error_iff, exists_and_right]
  | .conjunction o l r => by
    rw [fields, firstRefused_append_iff, ← exists_toExpr_iff, ← toExpr_eq_error_iff (c := l),
      ← toExpr_eq_error_iff (c := r)]
    simp only [toExpr, bind_eq_error_iff (x := l.toExpr), bind_pure_eq_error_iff, exists_and_right]

/-! ## What is encoded again -/

/-- A license in the spelling of the registry, without evidence, and with an or-later flag only if it is set. -/
def License.canonical (l : License) : License :=
  ⟨spelling licenses l.id, if l.laterVersions = some true then some true else none, []⟩

def LicenseRef.canonical (r : LicenseRef) : LicenseRef := { r with includes := [] }

def Simple.canonical : Simple → Simple
  | .license l => .license l.canonical
  | .ref r => .ref r.canonical

def WithException.canonical (w : WithException) : WithException :=
  ⟨w.license.canonical, spelling exceptions w.exceptionId, []⟩

/-- The document with every identifier in the spelling of its registry, without evidence and without or-later flags
that are not set. -/
def Compound.canonical : Compound → Compound
  | .simple s => .simple s.canonical
  | .withException w => .withException w.canonical
  | .conjunction o l r => .conjunction o l.canonical r.canonical

theorem Simple.canonical_canonical (s : Simple) : s.canonical.canonical = s.canonical := by
  cases s with
  | license l =>
    simp only [canonical, License.canonical, Registry.spelling_spelling Registry.tidy_licenses]
    split <;> simp_all
  | ref r => rfl

/-- **Nothing changes when a canonical document is made canonical.** -/
theorem Compound.canonical_canonical : ∀ c : Compound, c.canonical.canonical = c.canonical
  | .simple s => congrArg simple s.canonical_canonical
  | .withException w => by
    simp only [canonical, WithException.canonical, w.license.canonical_canonical,
      Registry.spelling_spelling Registry.tidy_exceptions]
  | .conjunction o l r => by simp only [canonical, canonical_canonical]

theorem Simple.ofLicense_of_toLicense {s : Simple} {r : Licensing.Simple} (h : s.toLicense = .ok r) :
    Simple.ofLicense [] r = s.canonical := by
  cases s with
  | license l =>
    obtain ⟨n, hn, rfl⟩ := toLicense_license_eq_ok_iff.1 h
    have hid : spelling licenses l.id = n := Registry.spelling_of_names Registry.tidy_licenses hn
    have hlater : (if l.laterVersions.getD false = true then some true else none) =
        if l.laterVersions = some true then some true else none := by
      rcases l.laterVersions with _ | _ | _ <;> rfl
    simp only [ofLicense, canonical, License.canonical, hid, hlater]
    rfl
  | ref l =>
    obtain ⟨rfl, -⟩ := toLicense_ref_eq_ok_iff.1 h
    rfl

/-- **What is decoded is encoded as the canonical document.** -/
theorem Compound.ofExpr_of_toExpr : ∀ {c : Compound} {e : Expr}, c.toExpr = .ok e → ofExpr [] e = c.canonical
  | .simple s, e, h => by
    obtain ⟨r, hr, rfl⟩ := map_eq_ok_iff.1 h
    rw [ofExpr, Simple.ofLicense_of_toLicense hr, canonical]
  | .withException w, e, h => by
    obtain ⟨s, hs, h⟩ := bind_eq_ok_iff.1 h
    obtain ⟨x, hx, h⟩ := bind_eq_ok_iff.1 h
    cases h
    have hx : spelling exceptions w.exceptionId = x :=
      Registry.spelling_of_names Registry.tidy_exceptions (Identifier.exceptionId_eq_ok_iff.1 hx)
    rw [ofExpr, Simple.ofLicense_of_toLicense hs, canonical, WithException.canonical, hx]
    rfl
  | .conjunction o l r, e, h => by
    obtain ⟨a, ha, h⟩ := bind_eq_ok_iff.1 h
    obtain ⟨b, hb, h⟩ := bind_eq_ok_iff.1 h
    cases h
    have hl := ofExpr_of_toExpr ha
    have hr := ofExpr_of_toExpr hb
    cases o with
    | and => rw [Operator.join, ofExpr, hl, hr, canonical]
    | or => rw [Operator.join, ofExpr, hl, hr, canonical]

/-- **Decoding and encoding again makes a document canonical, and changes nothing else.**  Decoding fails exactly if
some field is not valid, with the error of the first such field; else the decoded expression is encoded as the
canonical document, which is decoded as the same expression and is canonical already. -/
theorem Compound.decoding_canonicalizes (c : Compound) :
    ((∃ e, c.toExpr = .error e) ↔ ∃ f ∈ c.fields, ¬ f.Valid) ∧
      (∀ e, c.toExpr = .error e ↔ FirstRefused c.fields e) ∧
      (∀ e, c.toExpr = .ok e → ofExpr [] e = c.canonical ∧ c.canonical.toExpr = .ok e) ∧
      c.canonical.canonical = c.canonical := by
  refine ⟨?_, fun e => toExpr_eq_error_iff, fun e h => ?_, c.canonical_canonical⟩
  · have hfail : (∃ e, c.toExpr = .error e) ↔ ¬ ∃ e, c.toExpr = .ok e := by cases c.toExpr <;> simp
    rw [hfail, exists_toExpr_iff]
    simp
  · have hcanonical := ofExpr_of_toExpr h
    refine ⟨hcanonical, ?_⟩
    rw [← hcanonical]
    exact toExpr_ofExpr [] (registered_of_toExpr h)

theorem Compound.decoding_canonicalizes_operands :
    let left := Compound.withException
      ⟨.license ⟨"gpl-2.0+".toList, some false, [.text "t".toList]⟩, "Classpath-EXCEPTION-2.0".toList, []⟩
    let right (document : String) := Compound.simple (.ref ⟨"x".toList, some document.toList, [.file "f".toList]⟩)
    let c := Compound.conjunction .or left (right "d")
    let refused := Compound.conjunction .and c (.conjunction .or (right "d e") (.simple (.license ⟨[], none, []⟩)))
    ofExpr [] (.or (.withException (.id "GPL-2.0+".toList false) "Classpath-exception-2.0".toList)
        (.simple (.ref "x".toList (some "d".toList)))) = c.canonical ∧
      c.canonical = .conjunction .or (.withException ⟨.license ⟨"GPL-2.0+".toList, none, []⟩,
        "Classpath-exception-2.0".toList, []⟩) (.simple (.ref ⟨"x".toList, some "d".toList, []⟩)) ∧
      FirstRefused refused.fields
        ⟨.illegalCharacter, "d e".toList, 1, "illegal character ' ' in idstring".toList⟩ := by
  intro left right c refused
  have hc : c.toExpr = .ok (.or (.withException (.id "GPL-2.0+".toList false) "Classpath-exception-2.0".toList)
      (.simple (.ref "x".toList (some "d".toList)))) := by decide +kernel
  have hrefused : refused.toExpr =
      .error ⟨.illegalCharacter, "d e".toList, 1, "illegal character ' ' in idstring".toList⟩ := by decide +kernel
  have hcanonical := ((decoding_canonicalizes c).2.2.1 _ hc).1
  exact ⟨hcanonical, hcanonical ▸ rfl, ((decoding_canonicalizes refused).2.1 _).1 hrefused⟩

end Document
end Licensing
