import Licensing.Proofs.Identifier.Forms
import Licensing.Proofs.Token.Partition
/-!
# Where a reference is refused

A text that spells no license reference has one fault, and the order in which a reference is read decides which one: a
document part without a colon behind it, then a document part that is no idstring, then a missing lead of the license
part, then a license part that is no idstring (`licenseRef_eq_error_iff`).  The fault is found in a part, told by its
place in the reference, and told again by its place in the text whose token the reference is.
-/
namespace Licensing
namespace Identifier

/-- What is wrong with a text, and how far behind its first character. -/
structure Fault where
  kind : ErrorKind
  offset : Nat
  detail : Text
  deriving DecidableEq

/-- The error that tells a fault of a text which begins at an offset of a larger one. -/
def Fault.told (f : Fault) (whole : Text) (start : Nat) : ParseError :=
  ⟨f.kind, whole, (start + f.offset : Nat), f.detail⟩

def Fault.behind (f : Fault) (k : Nat) : Fault := { f with offset := k + f.offset }

/-- Why a text is no idstring. -/
inductive IdStringFault : Text → Fault → Prop
  | empty : IdStringFault [] ⟨.lessThanMinimumCharacterLength, 0, "idstring must not be empty".toList⟩
  | illegal {a b : Text} {x : Char} (ha : ∀ c ∈ a, isIdChar c = true) (hx : isIdChar x = false) :
    IdStringFault (a ++ x :: b)
      ⟨.illegalCharacter, a.length, "illegal character ".toList ++ Text.quoted [x] ++ " in idstring".toList⟩

/-- What stands in front of the license part of a reference: nothing, or a document part with its colon. -/
inductive Opens (t : Text) : Text → Text → Prop
  | plain (h : ¬ documentRefLead <+: t) : Opens t [] t
  | inDocument {d r : Text} (hd : IsIdString d) (ht : t = documentRefLead ++ d ++ ':' :: r) :
    Opens t (documentRefLead ++ d ++ [':']) r

/-- The parts of a reference that have to be idstrings, each with its offset.  The license part is looked at only behind
a document part that is one. -/
inductive Part (t : Text) : Nat → Text → Prop
  | document {d r : Text} (ht : t = documentRefLead ++ d ++ ':' :: r) (hd : ':' ∉ d) : Part t documentRefLead.length d
  | license {front name : Text} (h : Opens t front (licenseRefLead ++ name)) :
    Part t (front ++ licenseRefLead).length name

/-- Why a text is no license reference. -/
inductive ReferenceFault (t : Text) : Fault → Prop
  | colon {r : Text} (ht : t = documentRefLead ++ r) (hr : ':' ∉ r) :
    ReferenceFault t
      ⟨.missingColonAfterDocumentRef, t.length, "expected \":\" after DocumentRef idstring".toList⟩
  | lead {front rest : Text} (h : Opens t front rest) (hl : ¬ licenseRefLead <+: rest) :
    ReferenceFault t ⟨.missingLicenseRefPrefix, front.length, "expected ".toList ++ Text.quoted licenseRefLead⟩
  | part {k : Nat} {p : Text} {f : Fault} (hp : Part t k p) (hf : IdStringFault p f) : ReferenceFault t (f.behind k)

theorem IdStringFault.detail_ne_nil {t : Text} {f : Fault} (h : IdStringFault t f) : f.detail ≠ [] := by
  cases h <;> exact List.cons_ne_nil _ _

theorem ReferenceFault.detail_ne_nil {t : Text} {f : Fault} (h : ReferenceFault t f) : f.detail ≠ [] := by
  cases h with
  | colon => exact List.cons_ne_nil _ _
  | lead => exact List.cons_ne_nil _ _
  | part hp hf => exact hf.detail_ne_nil

/-- An error that tells a fault of a token tells it again of the source. -/
theorem Fault.relocate_told {f : Fault} (h : f.detail ≠ []) (t source : Text) (j k : Nat) :
    (f.told t j).relocate source k = f.told source (k + j) := by
  have hd : f.detail.isEmpty = false := by simpa using h
  simp [ParseError.relocate, ParseError.of, told, hd, Int.add_assoc]

/-! ## Idstrings -/

theorem firstIllegal?_append {a : Text} (ha : ∀ c ∈ a, isIdChar c = true) {x : Char} (hx : isIdChar x = false)
    (k : Nat) (b : Text) : firstIllegal? k (a ++ x :: b) = some (k + a.length, x) := by
  induction a generalizing k with
  | nil => simp [firstIllegal?, hx]
  | cons c a ih =>
    obtain ⟨hc, ha⟩ := List.forall_mem_cons.1 ha
    rw [List.cons_append, firstIllegal?, if_pos hc, ih ha, List.length_cons]
    simp only [Option.some.injEq, Prod.mk.injEq, and_true]
    omega

theorem exists_illegal {t : Text} (h : ¬ ∀ c ∈ t, isIdChar c = true) :
    ∃ a x b, t = a ++ x :: b ∧ (∀ c ∈ a, isIdChar c = true) ∧ isIdChar x = false := by
  have hsome : (t.find? fun c => !isIdChar c).isSome := by simpa using h
  obtain ⟨x, hfind⟩ := Option.isSome_iff_exists.1 hsome
  obtain ⟨hx, a, b, ht, ha⟩ := List.find?_eq_some_iff_append.1 hfind
  exact ⟨a, x, b, ht, by simpa using ha, by simpa using hx⟩

theorem IdStringFault.idString_eq {t : Text} {f : Fault} (h : IdStringFault t f) :
    idString t = .error (f.told t 0) := by
  cases h with
  | empty => rfl
  | @illegal a b x ha hx =>
    have hne : (a ++ x :: b).isEmpty = false := by simp
    rw [idString, hne, firstIllegal?_append ha hx]
    simp only [Bool.false_eq_true, if_false, Fault.told, Nat.zero_add]
    rfl

theorem exists_idStringFault {t : Text} (h : ¬ IsIdString t) : ∃ f, IdStringFault t f := by
  cases t with
  | nil => exact ⟨_, .empty⟩
  | cons c t =>
    obtain ⟨a, x, b, ht, ha, hx⟩ := exists_illegal fun hall => h ⟨List.cons_ne_nil c t, hall⟩
    rw [ht]
    exact ⟨_, .illegal ha hx⟩

theorem IdStringFault.idStringAt_eq {t : Text} {f : Fault} (h : IdStringFault t f) (whole : Text) (k : Nat) :
    idStringAt whole k t = .error ((f.behind k).told whole 0) := by
  rw [idStringAt, h.idString_eq, mapError_error, Fault.relocate_told h.detail_ne_nil, Fault.told, Fault.told]
  simp [Fault.behind]

/-! ## References -/

theorem Opens.eq_append {t front rest : Text} (h : Opens t front rest) : t = front ++ rest := by
  cases h with
  | plain => rfl
  | inDocument hd ht => simp [ht]

/-- The license part is read behind what opens the reference. -/
theorem Opens.exists_licenseRef_eq {t front rest : Text} (h : Opens t front rest) :
    ∃ d, licenseRef t = licenseRefFrom t d front.length rest := by
  cases h with
  | plain hlead => exact ⟨none, by rw [licenseRef, Text.after?_eq_none_iff.2 hlead]; rfl⟩
  | @inDocument d r hd ht =>
    refine ⟨some d, ?_⟩
    have hafter : Text.after? documentRefLead t = some (d ++ ':' :: rest) := by
      rw [Text.after?_eq_some_iff, ht]
      simp
    have hcut : Text.cut? [':'] (d ++ ':' :: rest) = some (d, rest) :=
      Text.cut?_singleton_eq_some_iff.2 ⟨rfl, not_mem_of_isIdString rfl hd⟩
    have hid : idStringAt t documentRefLead.length d = .ok d := idStringAt_eq_ok_iff.2 ⟨rfl, hd⟩
    simp only [licenseRef, hafter, hcut, hid, List.length_append, List.length_singleton]
    rfl

theorem licenseRefFrom_of_no_lead {rest : Text} (h : ¬ licenseRefLead <+: rest) (whole : Text) (d : Option Text)
    (k : Nat) : licenseRefFrom whole d k rest =
      .error ⟨.missingLicenseRefPrefix, whole, k, "expected ".toList ++ Text.quoted licenseRefLead⟩ := by
  rw [licenseRefFrom, Text.after?_eq_none_iff.2 h]
  rfl

theorem licenseRefFrom_of_fault {name : Text} {f : Fault} (h : IdStringFault name f) (whole : Text) (d : Option Text)
    (k : Nat) : licenseRefFrom whole d k (licenseRefLead ++ name) =
      .error ((f.behind (k + licenseRefLead.length)).told whole 0) := by
  simp only [licenseRefFrom, Text.after?_append, h.idStringAt_eq]
  rfl

/-- **A fault of a reference is the one that its check tells.** -/
theorem ReferenceFault.licenseRef_eq {t : Text} {f : Fault} (h : ReferenceFault t f) :
    licenseRef t = .error (f.told t 0) := by
  cases h with
  | colon ht hr =>
    rw [licenseRef, Text.after?_eq_some_iff.2 ht]
    simp only [Text.cut?_singleton_eq_none_iff.2 hr, Fault.told, Nat.zero_add]
    rfl
  | lead hopens hl =>
    obtain ⟨d, hd⟩ := hopens.exists_licenseRef_eq
    rw [hd, licenseRefFrom_of_no_lead hl, Fault.told, Nat.zero_add]
  | @part k p f hp hf =>
    cases hp with
    | @document d r ht hd =>
      have hafter : Text.after? documentRefLead t = some (p ++ ':' :: r) := by
        rw [Text.after?_eq_some_iff, ht, List.append_assoc]
      have hcut : Text.cut? [':'] (p ++ ':' :: r) = some (p, r) := Text.cut?_singleton_eq_some_iff.2 ⟨rfl, hd⟩
      simp only [licenseRef, hafter, hcut, hf.idStringAt_eq]
      rfl
    | license hopens =>
      obtain ⟨d, hd⟩ := hopens.exists_licenseRef_eq
      rw [hd, licenseRefFrom_of_fault hf, List.length_append]

/-- Every text can be opened, or it has a fault before its license part. -/
theorem exists_opens_or_fault (t : Text) : (∃ front rest, Opens t front rest) ∨ ∃ f, ReferenceFault t f := by
  by_cases hlead : documentRefLead <+: t
  · obtain ⟨r, rfl⟩ := hlead
    by_cases hcolon : ':' ∈ r
    · obtain ⟨d, r, rfl, hd⟩ := List.eq_append_cons_of_mem hcolon
      by_cases hid : IsIdString d
      · exact Or.inl ⟨_, _, .inDocument hid (List.append_assoc ..).symm⟩
      · obtain ⟨f, hf⟩ := exists_idStringFault hid
        exact Or.inr ⟨_, .part (.document (List.append_assoc ..).symm hd) hf⟩
    · exact Or.inr ⟨_, .colon rfl hcolon⟩
  · exact Or.inl ⟨_, _, .plain hlead⟩

theorem Opens.exists_render {t front name : Text} (h : Opens t front (licenseRefLead ++ name)) (hn : IsIdString name) :
    ∃ s, t = s.render ∧ IsReference s := by
  cases h with
  | plain => exact ⟨.ref name none, rfl, hn, nofun⟩
  | @inDocument d r hd ht =>
    refine ⟨.ref name (some d), ?_, hn, fun x hx => Option.some.inj hx ▸ hd⟩
    rw [ht]
    simp [Simple.render, refText]

/-- **A text is the text of a reference, or it has a fault.** -/
theorem exists_render_or_fault (t : Text) : (∃ s, t = s.render ∧ IsReference s) ∨ ∃ f, ReferenceFault t f := by
  rcases exists_opens_or_fault t with ⟨front, rest, hopens⟩ | hfault
  · by_cases hlead : licenseRefLead <+: rest
    · obtain ⟨name, rfl⟩ := hlead
      by_cases hn : IsIdString name
      · exact Or.inl (hopens.exists_render hn)
      · obtain ⟨f, hf⟩ := exists_idStringFault hn
        exact Or.inr ⟨_, .part (.license hopens) hf⟩
    · exact Or.inr ⟨_, .lead hopens hlead⟩
  · exact Or.inr hfault

theorem licenseRef_eq_error_iff {t : Text} {e : ParseError} :
    licenseRef t = .error e ↔ ∃ f, ReferenceFault t f ∧ e = f.told t 0 := by
  constructor
  · intro h
    rcases exists_render_or_fault t with ⟨s, hs⟩ | ⟨f, hf⟩
    · rw [licenseRef_eq_ok_iff.2 hs] at h
      cases h
    · rw [hf.licenseRef_eq] at h
      exact ⟨f, hf, (Except.error.inj h).symm⟩
  · rintro ⟨f, hf, rfl⟩
    exact hf.licenseRef_eq

theorem Fault.told_inj {f g : Fault} {whole : Text} {k : Nat} (h : f.told whole k = g.told whole k) : f = g := by
  obtain ⟨kind, offset, detail⟩ := f
  obtain ⟨kind', offset', detail'⟩ := g
  simp only [told, ParseError.mk.injEq, true_and] at h
  obtain ⟨rfl, hoffset, rfl⟩ := h
  obtain rfl : offset = offset' := by omega
  rfl

/-- The order of reading leaves no choice between two faults. -/
theorem ReferenceFault.unique {t : Text} {f g : Fault} (hf : ReferenceFault t f) (hg : ReferenceFault t g) : f = g :=
  Fault.told_inj (Except.error.inj (hf.licenseRef_eq.symm.trans hg.licenseRef_eq))

theorem ReferenceFault.iff_no_render {t : Text} :
    (∃ f, ReferenceFault t f) ↔ ∀ s, IsReference s → t ≠ s.render := by
  constructor
  · rintro ⟨f, hf⟩ s hs ht
    have h := licenseRef_eq_ok_iff.2 ⟨ht, hs⟩
    rw [hf.licenseRef_eq] at h
    cases h
  · intro h
    exact (exists_render_or_fault t).resolve_left fun ⟨s, ht, hs⟩ => h s hs ht

theorem Part.exists_eq {t p : Text} {k : Nat} (h : Part t k p) : ∃ a b, t = a ++ (p ++ b) ∧ a.length = k := by
  cases h with
  | @document d r ht hd => exact ⟨documentRefLead, ':' :: r, by rw [ht, List.append_assoc], rfl⟩
  | @license front name hopens =>
    refine ⟨front ++ licenseRefLead, [], ?_, rfl⟩
    rw [hopens.eq_append, List.append_nil, List.append_assoc]

/-- An illegal character stands where the fault says, in the part that it spoils. -/
theorem ReferenceFault.exists_illegal {t : Text} {f : Fault} (h : ReferenceFault t f)
    (hkind : f.kind = .illegalCharacter) : ∃ k a x b, Part t k (a ++ x :: b) ∧ (∀ y ∈ a, isIdChar y = true) ∧
      isIdChar x = false ∧ f.offset = k + a.length ∧ t[f.offset]? = some x := by
  cases h with
  | colon => cases hkind
  | lead => cases hkind
  | @part k p g hp hg =>
    cases hg with
    | empty => cases hkind
    | @illegal a b x ha hx =>
      refine ⟨k, a, x, b, hp, ha, hx, rfl, ?_⟩
      obtain ⟨front, behind, rfl, rfl⟩ := hp.exists_eq
      simp [Fault.behind]

/-- **A license reference is read exactly, and refused for one reason.**  A text is read as a reference exactly if it is
the text of one; any other text has one fault, which the order of reading decides, and the error tells it.  Where the
text is a token, the error shows the whole source and stands at the fault in the token, so an illegal character is the
character of the source at that place and the first one of its part that no idstring holds. -/
theorem licenseRef_exact (t : Text) :
    (∀ s, licenseRef t = .ok s ↔ t = s.render ∧ IsReference s) ∧
    (∀ e, licenseRef t = .error e ↔ ∃ f, ReferenceFault t f ∧ e = f.told t 0) ∧
    ((∃ f, ReferenceFault t f) ↔ ∀ s, IsReference s → t ≠ s.render) ∧
    (∀ f g, ReferenceFault t f → ReferenceFault t g → f = g) ∧
    ∀ (c rest : Cursor) (start : Nat), c.next? = some (⟨t, start⟩, rest) →
      (∀ s, Parser.oneToken licenseRef c = .done s rest ↔ t = s.render ∧ IsReference s) ∧
      (∀ e, Parser.oneToken licenseRef c = .failed e ↔ ∃ f, ReferenceFault t f ∧ e = f.told c.source start) ∧
      ∀ f, ReferenceFault t f → f.kind = .illegalCharacter →
        ∃ k a x b, Part t k (a ++ x :: b) ∧ (∀ y ∈ a, isIdChar y = true) ∧ isIdChar x = false ∧
          f.offset = k + a.length ∧ c.source[start + f.offset]? = some x := by
  refine ⟨fun s => licenseRef_eq_ok_iff, fun e => licenseRef_eq_error_iff, ReferenceFault.iff_no_render,
    fun f g hf hg => hf.unique hg, fun c rest start hn => ⟨fun s => ?_, fun e => ?_, fun f hf hkind => ?_⟩⟩
  · rw [Parser.oneToken_eq_done_iff, ← licenseRef_eq_ok_iff]
    constructor
    · rintro ⟨u, hu, hs⟩
      rw [hn] at hu
      obtain ⟨rfl, -⟩ := Prod.mk.inj (Option.some.inj hu)
      exact hs
    · exact fun hs => ⟨_, hn, hs⟩
  · rw [Parser.oneToken_failed_iff hn]
    constructor
    · rintro ⟨e', he', rfl⟩
      obtain ⟨f, hf, rfl⟩ := licenseRef_eq_error_iff.1 he'
      exact ⟨f, hf, Fault.relocate_told hf.detail_ne_nil t c.source 0 start⟩
    · rintro ⟨f, hf, rfl⟩
      exact ⟨_, hf.licenseRef_eq, (Fault.relocate_told hf.detail_ne_nil t c.source 0 start).symm⟩
  · obtain ⟨k, a, x, b, hp, ha, hx, hoffset, hget⟩ := hf.exists_illegal hkind
    refine ⟨k, a, x, b, hp, ha, hx, hoffset, ?_⟩
    obtain ⟨-, -, htext, -⟩ := Cursor.next?_eq_some_iff.1 hn
    have hlt : f.offset < t.length := (List.getElem?_eq_some_iff.1 hget).1
    rw [← hget]
    exact Cursor.getElem?_of_extract htext hlt

theorem licenseRef_exact_second_colon :
    let t := "DocumentRef-DocumentRef-a:LicenseRef-b:c_d".toList
    let c : Cursor := ⟨'(' :: t, 1⟩
    let f : Fault := ⟨.illegalCharacter, 38, "illegal character ':' in idstring".toList⟩
    c.next? = some (⟨t, 1⟩, ⟨c.source, 43⟩) ∧ ReferenceFault t f ∧ (∀ s, IsReference s → t ≠ s.render) ∧
      Parser.oneToken licenseRef c = .failed ⟨.illegalCharacter, c.source, 39, f.detail⟩ ∧
      ∃ k a x b, Part t k (a ++ x :: b) ∧ (∀ y ∈ a, isIdChar y = true) ∧ isIdChar x = false ∧
        f.offset = k + a.length ∧ c.source[1 + f.offset]? = some x := by
  intro t c f
  have hn : c.next? = some (⟨t, 1⟩, ⟨c.source, 43⟩) := by decide +kernel
  have herror : licenseRef t = .error (f.told t 0) := by decide +kernel
  obtain ⟨-, hrefused, hnone, -, htoken⟩ := licenseRef_exact t
  obtain ⟨g, hg, htold⟩ := (hrefused _).1 herror
  obtain rfl := Fault.told_inj htold
  obtain ⟨-, hfailed, hplace⟩ := htoken c _ 1 hn
  exact ⟨hn, hg, hnone.1 ⟨f, hg⟩, (hfailed _).2 ⟨f, hg, rfl⟩, hplace f hg rfl⟩

end Identifier
end Licensing
