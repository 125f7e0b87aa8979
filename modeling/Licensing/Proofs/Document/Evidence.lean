import Licensing.Document.Encoding
import Licensing.Proofs.Grammar.Yield
/-!
# Where evidence is attached

A document is made up of its bare form, which has no evidence, and of what is filed in it: its identifiers from left to
right, each with the evidence in its place (`Compound.eq_iff`).  Encoding files under every license and exception of the
expression what the evidence has for it (`Compound.filed_ofExpr`), so exactly the collected identifiers decide which
evidence is seen (`Compound.ofExpr_eq_iff_agree`).
-/
namespace Licensing

/-- The identifier under which the evidence of a license or an exception is looked up. -/
def Atom.key : Atom → Text
  | .license s => s.name
  | .exception x => x

/-- **The keys of an expression are the identifiers that it collects.** -/
theorem Expr.exists_key_iff {e : Expr} {i : Text} :
    (∃ a ∈ e.atoms, a.key = i) ↔ i ∈ e.licenseIds ∨ i ∈ e.exceptionIds := by
  rw [mem_licenseIds_iff, mem_exceptionIds_iff]
  constructor
  · rintro ⟨a, ha, rfl⟩
    cases a with
    | license s => exact .inl ⟨s, ha, rfl⟩
    | exception x => exact .inr ha
  · rintro (⟨s, hs, rfl⟩ | hx)
    · exact ⟨_, hs, rfl⟩
    · exact ⟨_, hx, rfl⟩

namespace Document

/-! ## What is filed in a document -/

/-- The identifier of a license, with the evidence in its place. -/
def Simple.filed : Simple → Text × List Include
  | .license l => (l.id, l.includes)
  | .ref r => (refText r.name r.document, r.includes)

/-- The identifiers of a document from left to right, each with the evidence in its place. -/
def Compound.filed : Compound → List (Text × List Include)
  | .simple s => [s.filed]
  | .withException w => [w.license.filed, (w.exceptionId, w.includes)]
  | .conjunction _ l r => l.filed ++ r.filed

def Simple.bare : Simple → Simple
  | .license l => .license { l with includes := [] }
  | .ref r => .ref { r with includes := [] }

/-- The document without its evidence. -/
def Compound.bare : Compound → Compound
  | .simple s => .simple s.bare
  | .withException w => .withException ⟨w.license.bare, w.exceptionId, []⟩
  | .conjunction o l r => .conjunction o l.bare r.bare

theorem Simple.eq_of_bare {s t : Simple} (hb : s.bare = t.bare) (hf : s.filed = t.filed) : s = t := by
  cases s with
  | license l =>
    cases t with
    | license m =>
      cases l
      cases m
      simp_all [bare, filed]
    | ref r => cases hb
  | ref r =>
    cases t with
    | license m => cases hb
    | ref q =>
      cases r
      cases q
      simp_all [bare, filed]

theorem Compound.length_filed_bare : ∀ c : Compound, c.bare.filed.length = c.filed.length
  | .simple _ => rfl
  | .withException _ => rfl
  | .conjunction _ l r => by
    rw [bare, filed, filed, List.length_append, List.length_append, length_filed_bare l, length_filed_bare r]

theorem Compound.eq_of_bare : ∀ {c d : Compound}, c.bare = d.bare → c.filed = d.filed → c = d
  | .simple s, .simple t, hb, hf => by
    rw [Simple.eq_of_bare (Compound.simple.inj hb) (List.cons.inj hf).1]
  | .withException w, .withException v, hb, hf => by
    have hlicense := Simple.eq_of_bare (congrArg WithException.license (Compound.withException.inj hb))
      (List.cons.inj hf).1
    cases w
    cases v
    simp_all [filed]
  | .conjunction o l r, .conjunction o' l' r', hb, hf => by
    obtain ⟨rfl, hl, hr⟩ := Compound.conjunction.inj hb
    -- the operands of one bare form file equally many identifiers
    have hlen : l.filed.length = l'.filed.length := by rw [← length_filed_bare, hl, length_filed_bare]
    obtain ⟨hfl, hfr⟩ := List.append_inj hf hlen
    rw [eq_of_bare hl hfl, eq_of_bare hr hfr]

/-- **A document is its bare form with what is filed in it.** -/
theorem Compound.eq_iff {c d : Compound} : c = d ↔ c.bare = d.bare ∧ c.filed = d.filed :=
  ⟨fun h => h ▸ ⟨rfl, rfl⟩, fun h => eq_of_bare h.1 h.2⟩

/-! ## Encoding -/

theorem Simple.bare_ofLicense (m : Evidence) : ∀ s : Licensing.Simple, (ofLicense m s).bare = ofLicense [] s
  | .id _ _ => rfl
  | .ref _ _ => rfl

theorem Simple.filed_ofLicense (m : Evidence) : ∀ s : Licensing.Simple, (ofLicense m s).filed = (s.name, m.for s.name)
  | .id _ _ => rfl
  | .ref _ _ => rfl

/-- **The evidence decides nothing else.** -/
theorem Compound.bare_ofExpr (m : Evidence) : ∀ e : Expr, (ofExpr m e).bare = ofExpr [] e
  | .simple s => by rw [ofExpr, bare, Simple.bare_ofLicense, ofExpr]
  | .withException s x => by
    rw [ofExpr, bare, Simple.bare_ofLicense, ofExpr]
    rfl
  | .and l r => by rw [ofExpr, bare, bare_ofExpr m l, bare_ofExpr m r, ofExpr]
  | .or l r => by rw [ofExpr, bare, bare_ofExpr m l, bare_ofExpr m r, ofExpr]

/-- **Under each license and exception, from left to right, all that the evidence has for it is filed.** -/
theorem Compound.filed_ofExpr (m : Evidence) : ∀ e : Expr,
    (ofExpr m e).filed = e.atoms.map fun a => (a.key, m.for a.key)
  | .simple s => by rw [ofExpr, filed, Simple.filed_ofLicense]; rfl
  | .withException s x => by rw [ofExpr, filed, Simple.filed_ofLicense]; rfl
  | .and l r => by rw [ofExpr, filed, filed_ofExpr m l, filed_ofExpr m r, Expr.atoms_and, List.map_append]
  | .or l r => by rw [ofExpr, filed, filed_ofExpr m l, filed_ofExpr m r, Expr.atoms_or, List.map_append]

/-- **Evidence lands exactly where the collected identifiers say.**  Two collections of evidence give one document if
and only if they agree on every identifier that the expression collects, a missing key counting as no evidence; every
occurrence of an identifier carries all the evidence of its own key; and without the evidence the document is what
encoding without any gives. -/
theorem Compound.ofExpr_eq_iff_agree (e : Expr) (a b : Evidence) :
    (ofExpr a e = ofExpr b e ↔ ∀ i, i ∈ e.licenseIds ∨ i ∈ e.exceptionIds → a.for i = b.for i) ∧
      (ofExpr a e).filed = e.atoms.map (fun x => (x.key, a.for x.key)) ∧
      (ofExpr a e).bare = ofExpr [] e := by
  refine ⟨?_, filed_ofExpr a e, bare_ofExpr a e⟩
  rw [eq_iff, bare_ofExpr, bare_ofExpr, filed_ofExpr, filed_ofExpr, List.map_inj_left]
  simp only [true_and, Prod.mk.injEq, ← Expr.exists_key_iff]
  constructor
  · rintro h i ⟨x, hx, rfl⟩
    exact h x hx
  · exact fun h x hx => h x.key ⟨x, hx, rfl⟩

end Document
end Licensing
