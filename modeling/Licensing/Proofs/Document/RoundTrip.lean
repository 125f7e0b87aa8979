import Licensing.Document
import Licensing.Proofs.Document.Decoding
import Licensing.Proofs.Document.Fields
import Licensing.Proofs.Json.RoundTrip
/-!
# Documents of expressions are read back

The value of a document is accepted as that document (`Compound.ofValue_toValue`), since the fields that are written
tell which shape it has, and its text in JSON holds the value without loss.
-/
namespace Licensing.Document

open Checked Key

theorem separate_license : Separate [idKey, laterVersionsKey, includesKey] := by decide

theorem separate_licenseRef : Separate [licenseRefKey, documentRefKey, includesKey] := by decide

theorem separate_withException : Separate [conjunctionKey, licenseKey, exceptionIdKey, exceptionIncludesKey] := by
  decide

theorem separate_conjunction : Separate [conjunctionKey, leftKey, rightKey] := by decide

theorem Include.ofValue_toValue (i : Include) : Include.ofValue i.toValue = .ok i := by
  cases i <;> rfl

theorem listOf_includes (is : List Include) : listOf Include.ofValue (Include.listValue is) = .ok is :=
  listOf_map Include.ofValue_toValue is

theorem License.ofValue_toValue (l : License) : License.ofValue l.toValue = .ok l := by
  have h := separate_license
  refine record_fieldsOf rfl h (map3_ok ?_ ?_ ?_)
  · exact required_fieldsOf rfl h (v := .text l.id) (by simp) rfl
  · exact optional_fieldsOf rfl h (f := .bool) (by simp) (fun b => nofun) fun b => rfl
  · exact withDefault_fieldsOf rfl h (by simp) (listOf_includes l.includes)

theorem LicenseRef.ofValue_toValue (r : LicenseRef) : LicenseRef.ofValue r.toValue = .ok r := by
  have h := separate_licenseRef
  refine record_fieldsOf rfl h (map3_ok ?_ ?_ ?_)
  · exact required_fieldsOf rfl h (v := .text r.name) (by simp) rfl
  · exact optional_fieldsOf rfl h (f := .text) (by simp) (fun t => nofun) fun t => rfl
  · exact withDefault_fieldsOf rfl h (by simp) (listOf_includes r.includes)

theorem Simple.ofValue_toValue (s : Simple) : Simple.ofValue s.toValue = .ok s := by
  cases s with
  | license l =>
    have hr : hasRef l.toValue = false := by
      obtain ⟨n, later, is⟩ := l
      cases later <;> rfl
    rw [toValue, ofValue, hr, License.ofValue_toValue]
    rfl
  | ref r =>
    have hr : hasRef r.toValue = true := rfl
    rw [toValue, ofValue, hr, LicenseRef.ofValue_toValue]
    rfl

theorem WithException.ofValue_toValue (w : WithException) : WithException.ofValue w.toValue = .ok w := by
  have h := separate_withException
  refine record_fieldsOf rfl h (map4_ok (x := ()) ?_ ?_ ?_ ?_)
  · exact withDefault_fieldsOf rfl h (v := .text withWord) (by simp) rfl
  · exact required_fieldsOf rfl h (by simp) (Simple.ofValue_toValue w.license)
  · exact required_fieldsOf rfl h (v := .text w.exceptionId) (by simp) rfl
  · exact withDefault_fieldsOf rfl h (by simp) (listOf_includes w.includes)

namespace Compound

theorem ofFields_eq_map : ∀ fs : Fields, ofFields fs = fs.map fun p => (p.1, ofValue p.2)
  | [] => rfl
  | (k, v) :: fs => by rw [ofFields, ofFields_eq_map fs, List.map_cons]

theorem shapeOf_simple (s : Simple) : ∃ fs, s.toValue = .record fs ∧ shapeOf fs = .simple := by
  cases s with
  | license l =>
    obtain ⟨n, later, is⟩ := l
    cases later <;> exact ⟨_, rfl, rfl⟩
  | ref r =>
    obtain ⟨n, d, is⟩ := r
    cases d <;> exact ⟨_, rfl, rfl⟩

theorem conjunctionOfValue_toValue (o : Operator) {l r : Compound} (hl : ofValue l.toValue = .ok l)
    (hr : ofValue r.toValue = .ok r) : conjunctionOfValue (conjunction o l r).toValue = .ok (conjunction o l r) := by
  have h := separate_conjunction
  have ho : Operator.ofValue (.text o.word) = .ok o := by cases o <;> rfl
  rw [toValue, conjunctionOfValue]
  simp only [conjunctionOf, ofFields_eq_map, required_map]
  refine map2_ok (y := ()) (map3_ok ?_ ?_ ?_) ?_
  · exact required_fieldsOf rfl h (by simp) ho
  · exact required_fieldsOf rfl h (by simp) hl
  · exact required_fieldsOf rfl h (by simp) hr
  · exact closed_fieldsOf rfl h

theorem ofValue_conjunction (o : Operator) {l r : Compound} (hl : ofValue l.toValue = .ok l)
    (hr : ofValue r.toValue = .ok r) : ofValue (conjunction o l r).toValue = .ok (conjunction o l r) := by
  have hshape : shapeOf (fieldsOf [(conjunctionKey, some (.text o.word)), (leftKey, some l.toValue),
      (rightKey, some r.toValue)]) = .conjunction := by cases o <;> rfl
  rw [toValue, ofValue, hshape]
  exact congrArg (under conjunctionTag) (conjunctionOfValue_toValue o hl hr)

/-- **The value of a document of an expression is accepted as that document**: no field is lost, and each goes where it
came from. -/
theorem ofValue_toValue : ∀ c : Compound, ofValue c.toValue = .ok c
  | .simple s => by
    obtain ⟨fs, hv, hs⟩ := shapeOf_simple s
    have h := Simple.ofValue_toValue s
    rw [hv] at h
    rw [toValue, hv, ofValue, hs]
    simp only [h]
    rfl
  | .withException w => by
    show tagged withTag withException (WithException.ofValue w.toValue) = _
    rw [WithException.ofValue_toValue]
    rfl
  | .conjunction o l r => ofValue_conjunction o (ofValue_toValue l) (ofValue_toValue r)

end Compound
/-! ## Texts -/

open Json (Lossless)

theorem Include.lossless_toValue (i : Include) : Lossless i.toValue := by
  cases i <;> simp [toValue, Lossless, Json.LosslessFields]

theorem Include.lossless_listValue (is : List Include) : Lossless (listValue is) := by
  rw [listValue, Json.lossless_list_iff, List.forall_mem_map]
  exact fun i _ => i.lossless_toValue

theorem lossless_fieldsOf {keys : List Key} {fs : List (Key × Option Value)} (hkeys : fs.map (·.1) = keys)
    (h : Separate keys) (hv : ∀ p ∈ fs, ∀ v ∈ p.2, Lossless v) : Lossless (.record (fieldsOf fs)) := by
  subst hkeys
  refine Json.lossless_record_iff.2 ⟨nodup_fieldsOf h, fun q hq => ?_⟩
  obtain ⟨k, v, hm, rfl⟩ := mem_fieldsOf_iff.1 hq
  exact hv (k, some v) hm v rfl

theorem lossless_map {α : Type} {f : α → Value} (hf : ∀ a, Lossless (f a)) (o : Option α) :
    ∀ v ∈ o.map f, Lossless v := by
  intro v hv
  obtain ⟨a, -, rfl⟩ := Option.map_eq_some_iff.1 hv
  exact hf a

theorem License.lossless_toValue (l : License) : Lossless l.toValue := by
  have hlater := lossless_map (f := .bool) (fun b => trivial) l.laterVersions
  refine lossless_fieldsOf rfl separate_license ?_
  simpa [Lossless, Include.lossless_listValue] using hlater

theorem LicenseRef.lossless_toValue (r : LicenseRef) : Lossless r.toValue := by
  refine lossless_fieldsOf rfl separate_licenseRef ?_
  simp [Lossless, Include.lossless_listValue]

theorem Simple.lossless_toValue (s : Simple) : Lossless s.toValue := by
  cases s with
  | license l => exact l.lossless_toValue
  | ref r => exact r.lossless_toValue

theorem Compound.lossless_toValue : ∀ c : Compound, Lossless c.toValue
  | .simple s => s.lossless_toValue
  | .withException w => by
    refine lossless_fieldsOf rfl separate_withException ?_
    simp [Lossless, Include.lossless_listValue, Simple.lossless_toValue]
  | .conjunction o l r => by
    have hl := lossless_toValue l
    have hr := lossless_toValue r
    refine lossless_fieldsOf rfl separate_conjunction ?_
    simp [Lossless, hl, hr]

theorem toValue_ofCompound (c : Compound) : (ofCompound c).toValue = c.toValue := by
  rcases c with (l | r) | w | ⟨o, l, r⟩ <;> rfl

/-- **The encoding of expressions in JSON is lossless**: in any layout, the text of a registered expression with its
evidence is read, accepted as the very document that was written, and decoded as the expression. -/
theorem Compound.read_toJson_ofExpr {e : Expr} (h : e.Registered) (m : Evidence) (indent : Option Nat) :
    Json.read (toJson indent (ofCompound (Compound.ofExpr m e))) = .ok (Compound.ofExpr m e).toValue ∧
      Compound.ofValue (Compound.ofExpr m e).toValue = .ok (Compound.ofExpr m e) ∧
      (Compound.ofExpr m e).toExpr = .ok e := by
  refine ⟨?_, Compound.ofValue_toValue _, Compound.toExpr_ofExpr m h⟩
  rw [toJson, textOf, toValue_ofCompound]
  exact Json.read_render (Json.Layout.spaced_ofIndent indent) (Compound.lossless_toValue _)

theorem Compound.read_toJson_with_evidence :
    let e := Expr.and (.withException (.id "GPL-2.0".toList true) "Classpath-exception-2.0".toList)
      (.simple (.ref "x".toList (some "d".toList)))
    let m : Evidence := [("GPL-2.0".toList, [.file "COPYING".toList, .text "\"quoted\"\n".toList]),
      ("Classpath-exception-2.0".toList, [.file "EXCEPTION".toList])]
    let c := Compound.ofExpr m e
    e.Registered ∧ Json.read (toJson (some 2) (ofCompound c)) = .ok c.toValue ∧ Compound.ofValue c.toValue = .ok c ∧
      c.toExpr = .ok e := by
  intro e m c
  have he : e.Registered := by
    refine ⟨⟨?_, ?_⟩, by decide, fun x hx => ?_⟩
    · show "GPL-2.0".toList ∈ Registry.licenses
      decide +kernel
    · decide +kernel
    · obtain rfl := Option.some.inj hx
      decide
  exact ⟨he, Compound.read_toJson_ofExpr he m (some 2)⟩

end Licensing.Document
