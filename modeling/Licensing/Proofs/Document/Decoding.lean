import Licensing.Document.Encoding
import Licensing.Proofs.Except
import Licensing.Proofs.Expr.WellFormed
/-!
# Decoding expressions

What decoding accepts: a license whose identifier names an entry, and a reference of idstrings.  A decoded expression is
registered (`Compound.registered_of_toExpr`), and every registered expression is decoded from the document that encodes
it, whatever evidence is attached (`Compound.toExpr_ofExpr`).
-/
namespace Licensing
namespace Document

theorem documentName_eq_ok_iff {d d' : Option Text} :
    documentName d = .ok d' ↔ d' = d ∧ ∀ x ∈ d, Identifier.IsIdString x := by
  cases d with
  | none => simp [documentName, eq_comm]
  | some x =>
    simp only [documentName, map_eq_ok_iff, Identifier.idString_eq_ok_iff, Option.mem_some, forall_eq']
    constructor
    · rintro ⟨_, ⟨rfl, hx⟩, rfl⟩
      exact ⟨rfl, hx⟩
    · rintro ⟨rfl, hx⟩
      exact ⟨x, ⟨rfl, hx⟩, rfl⟩

theorem toLicense_license_eq_ok_iff {l : License} {s : Licensing.Simple} :
    (Simple.license l).toLicense = .ok s ↔
      ∃ n, Registry.Names Registry.licenses l.id n ∧ s = .id n (l.laterVersions.getD false) :=
  Identifier.map_licenseName_eq_ok_iff

theorem toLicense_ref_eq_ok_iff {r : LicenseRef} {s : Licensing.Simple} :
    (Simple.ref r).toLicense = .ok s ↔ s = .ref r.name r.document ∧ Identifier.IsReference s := by
  unfold Simple.toLicense
  simp only [bind_eq_ok_iff, Identifier.idString_eq_ok_iff, documentName_eq_ok_iff]
  constructor
  · rintro ⟨n, ⟨rfl, hn⟩, d, ⟨rfl, hd⟩, he⟩
    cases he
    exact ⟨rfl, hn, hd⟩
  · rintro ⟨rfl, hn, hd⟩
    exact ⟨_, ⟨rfl, hn⟩, _, ⟨rfl, hd⟩, rfl⟩

theorem Simple.registered_of_toLicense {s : Simple} {r : Licensing.Simple} (h : s.toLicense = .ok r) :
    r.Registered := by
  cases s with
  | license l =>
    obtain ⟨n, hn, rfl⟩ := toLicense_license_eq_ok_iff.1 h
    exact hn.1
  | ref l =>
    obtain ⟨rfl, hs⟩ := toLicense_ref_eq_ok_iff.1 h
    exact hs

/-- **A decoded expression is registered.** -/
theorem Compound.registered_of_toExpr : ∀ {c : Compound} {e : Expr}, c.toExpr = .ok e → e.Registered
  | .simple s, e, h => by
    obtain ⟨r, hr, rfl⟩ := map_eq_ok_iff.1 h
    exact Simple.registered_of_toLicense hr
  | .withException w, e, h => by
    obtain ⟨s, hs, h⟩ := bind_eq_ok_iff.1 h
    obtain ⟨x, hx, h⟩ := bind_eq_ok_iff.1 h
    cases h
    exact ⟨Simple.registered_of_toLicense hs, (Identifier.exceptionId_eq_ok_iff.1 hx).1⟩
  | .conjunction o l r, e, h => by
    obtain ⟨a, ha, h⟩ := bind_eq_ok_iff.1 h
    obtain ⟨b, hb, h⟩ := bind_eq_ok_iff.1 h
    cases h
    cases o with
    | and => exact ⟨registered_of_toExpr ha, registered_of_toExpr hb⟩
    | or => exact ⟨registered_of_toExpr ha, registered_of_toExpr hb⟩

theorem Simple.toLicense_ofLicense (m : Evidence) : ∀ {s : Licensing.Simple}, s.Registered →
    (Simple.ofLicense m s).toLicense = .ok s
  | .id _ false, h => toLicense_license_eq_ok_iff.2 ⟨_, Registry.Names.self h, rfl⟩
  | .id _ true, h => toLicense_license_eq_ok_iff.2 ⟨_, Registry.Names.self h, rfl⟩
  | .ref _ _, h => toLicense_ref_eq_ok_iff.2 ⟨rfl, h⟩

/-- **A registered expression is decoded from its encoding**, whatever evidence is attached to it. -/
theorem Compound.toExpr_ofExpr (m : Evidence) : ∀ {e : Expr}, e.Registered → (Compound.ofExpr m e).toExpr = .ok e
  | .simple _, h => map_eq_ok_iff.2 ⟨_, Simple.toLicense_ofLicense m h, rfl⟩
  | .withException _ _, h =>
    bind_eq_ok_iff.2 ⟨_, Simple.toLicense_ofLicense m h.1,
      bind_eq_ok_iff.2 ⟨_, Identifier.exceptionId_eq_ok_iff.2 (Registry.Names.self h.2), rfl⟩⟩
  | .and _ _, h => bind_eq_ok_iff.2 ⟨_, toExpr_ofExpr m h.1, bind_eq_ok_iff.2 ⟨_, toExpr_ofExpr m h.2, rfl⟩⟩
  | .or _ _, h => bind_eq_ok_iff.2 ⟨_, toExpr_ofExpr m h.1, bind_eq_ok_iff.2 ⟨_, toExpr_ofExpr m h.2, rfl⟩⟩

end Document
end Licensing
