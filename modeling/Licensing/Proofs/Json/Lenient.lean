import Licensing.Json.Encoding
import Licensing.Proofs.Except
import Licensing.Proofs.Json.Plain
import Licensing.Proofs.Json.RoundTrip
import Licensing.Proofs.Text.Wide
/-!
# What is read strictly is read leniently

The lenient reader has a place for every surrogate, but it limits digits and brackets.  Of a text it reads what the
strict reader reads, unless it meets a limit (`readWide_of_read`).  The two readers go along side by side: each step of
the one is a step of the other, on the text as the lenient reader sees it.  The bytes of a record that is written show
as UTF-8, so they are decoded as its text (`decode_render_record`).
-/
namespace Licensing
namespace Json

open Dialect (strict lenient isPlain)
open Wide (ofText)

/-! ## Numbers and words -/

theorem ofText_append (s t : Text) : ofText (s ++ t) = ofText s ++ ofText t := List.map_append

theorem length_ofText (t : Text) : (ofText t).length = t.length := List.length_map _

theorem run_ofText : ∀ t : Text, Dialect.run (ofText t) = t.takeWhile isPlain
  | [] => rfl
  | c :: t => by
    rw [List.takeWhile_cons, ← run_ofText t]
    show (if isPlain c then _ else _) = _
    rfl

theorem endsPlain_dropWhile (t : Text) : EndsPlain (t.dropWhile isPlain) := by
  intro c hc
  have hne : t.dropWhile isPlain ≠ [] := by rintro h; rw [h] at hc; cases hc
  rw [List.head?_eq_some_head hne] at hc
  obtain rfl := Option.some.inj hc
  simpa using List.head_dropWhile_not isPlain hne

theorem gives_wideScalar {t r : Text} {v : Value} (h : scalar none t = .ok (v, r)) :
    Gives (Dialect.wideScalar (ofText t)) (v.map ofText, ofText r) := by
  have happend : t.takeWhile isPlain ++ t.dropWhile isPlain = t := List.takeWhile_append_dropWhile
  rw [← happend] at h
  obtain ⟨u, rfl, ⟨s, hs⟩, hgives⟩ := gives_scalar (endsPlain_dropWhile t) h Text.maxDigits
  have hbehind : (ofText t).drop ((t.takeWhile isPlain).length - u.length) = ofText (u ++ t.dropWhile isPlain) := by
    have hlength : (t.takeWhile isPlain).length - u.length = (ofText s).length := by
      rw [← hs, List.length_append, length_ofText, Nat.add_sub_cancel]
    have htext : ofText t = ofText s ++ ofText (u ++ t.dropWhile isPlain) := by
      rw [← ofText_append, ← List.append_assoc, hs, happend]
    rw [hlength, htext, List.drop_left]
  unfold Dialect.wideScalar
  rw [run_ofText]
  obtain hok | ⟨f, w, herror, hf⟩ := hgives
  · rw [hok, ← hbehind]
    exact gives_ok _
  · rw [herror]
    exact .inr ⟨f, _, rfl, hf⟩

/-! ## Strings -/

variable {brackets : Nat}

theorem ofText_cons (c : Char) (t : Text) : ofText (c :: t) = .char c :: ofText t := rfl

theorem next?_ofText (t : Text) :
    (lenient brackets).next? (ofText t) = (strict.next? t).map fun p => (p.1, ofText p.2) := by
  cases t <;> rfl

theorem skip_ofText (t : Text) : (lenient brackets).skip (ofText t) = ofText (strict.skip t) := by
  rw [Dialect.skip, Dialect.skip, ofText, List.dropWhile_map]
  rfl

theorem unit?_ofText (t : Text) :
    unit? (lenient brackets) (ofText t) = (unit? strict t).map fun p => (p.1, ofText p.2) := by
  rcases t with _ | ⟨a, _ | ⟨b, _ | ⟨c, _ | ⟨d, _ | ⟨k, t⟩⟩⟩⟩⟩
  · rfl
  · rfl
  · rfl
  · rfl
  · rfl
  · have hlenient (x : Char) : ((lenient brackets).char? (.char x)).bind hexValue? = hexValue? x := rfl
    have hstrict (x : Char) : (strict.char? x).bind hexValue? = hexValue? x := rfl
    simp only [ofText, List.map_cons, unit?, hlenient, hstrict]
    cases hexValue? a <;> cases hexValue? b <;> cases hexValue? c <;> cases hexValue? d <;> rfl

/-- What the strict reader reads of an escape is a character in one unit or in two. -/
theorem unitEscape_strict_cases {place t r : Text} {c : Char} (h : unitEscape strict place t = .ok (c, r)) :
    (∃ n, unit? strict t = some (n, r) ∧ Surrogate.isHigh n = false ∧ Surrogate.isLow n = false ∧ c = Char.ofNat n) ∨
    ∃ m n u, unit? strict t = some (m, '\\' :: 'u' :: u) ∧ Surrogate.isHigh m = true ∧ unit? strict u = some (n, r) ∧
      Surrogate.isLow n = true ∧ c = Surrogate.join m n := by
  unfold unitEscape at h
  split at h
  · cases h
  · rename_i m u hu
    split at h
    · rename_i hm
      split at h
      · split at h
        · rename_i hescape
          rw [Bool.and_eq_true, decide_eq_true_eq, decide_eq_true_eq] at hescape
          obtain ⟨rfl, rfl⟩ := And.imp Option.some.inj Option.some.inj hescape
          split at h
          · cases h
          · rename_i n u hn
            split at h
            · rename_i hlow
              obtain ⟨hc, rfl⟩ := Prod.mk.inj (Except.ok.inj h)
              rw [Dialect.ofChar_strict] at hc
              exact .inr ⟨m, n, _, hu, hm, hn, hlow, hc.symm⟩
            · cases h
        · cases h
      · cases h
    · rename_i hm
      split at h
      · cases h
      · rename_i hlow
        obtain ⟨hc, rfl⟩ := Prod.mk.inj (Except.ok.inj h)
        rw [Dialect.ofChar_strict] at hc
        exact .inl ⟨m, hu, by simpa using hm, by simpa using hlow, hc.symm⟩

theorem unitEscape_ofText {place t r : Text} {c : Char} (h : unitEscape strict place t = .ok (c, r)) (w : Wide) :
    unitEscape (lenient brackets) w (ofText t) = .ok (.char c, ofText r) := by
  rcases unitEscape_strict_cases h with ⟨n, hn, hh, hl, hc⟩ | ⟨m, n, u, hm, hhigh, hn, hlow, hc⟩
  · have hunit : unit? (lenient brackets) (ofText t) = some (n, ofText r) := by rw [unit?_ofText, hn, Option.map_some]
    rw [unitEscape_one hunit hh hl, hc]
    rfl
  · have hunit : unit? (lenient brackets) (ofText t) = some (m, .char '\\' :: .char 'u' :: ofText u) := by
      rw [unit?_ofText, hm, Option.map_some, ofText_cons, ofText_cons]
    have hrest : unit? (lenient brackets) (ofText u) = some (n, ofText r) := by rw [unit?_ofText, hn, Option.map_some]
    rw [unitEscape_two hunit hhigh rfl rfl hrest hlow, hc]
    rfl

theorem escaped_ofText {whole place t r : Text} {c : Char} (h : escaped strict whole place t = .ok (c, r))
    (w u : Wide) : escaped (lenient brackets) w u (ofText t) = .ok (.char c, ofText r) := by
  cases t with
  | nil => cases h
  | cons e t =>
    rw [ofText_cons]
    unfold escaped at h ⊢
    dsimp only at h ⊢
    by_cases he : e = 'u'
    · subst he
      exact unitEscape_ofText h _
    · have hstrict : ¬ strict.char? e = some 'u' := fun h0 => he (Option.some.inj h0)
      have hlenient : ¬ (lenient brackets).char? (.char e) = some 'u' := fun h0 => he (Option.some.inj h0)
      rw [if_neg hstrict] at h
      rw [if_neg hlenient]
      have hletter : ((lenient brackets).char? (.char e)).bind letterEscape? = letterEscape? e := rfl
      have hletter' : (strict.char? e).bind letterEscape? = letterEscape? e := rfl
      rw [hletter'] at h
      rw [hletter]
      cases hl : letterEscape? e with
      | none =>
        rw [hl] at h
        cases h
      | some d =>
        rw [hl] at h
        cases h
        rfl

theorem stringStep_ofText {whole t r : Text} {o : Option Char} (h : stringStep strict whole t = .ok (o, r)) (w : Wide) :
    stringStep (lenient brackets) w (ofText t) = .ok (o.map .char, ofText r) := by
  cases t with
  | nil => cases h
  | cons c t =>
    rw [ofText_cons]
    by_cases hquote : c = '"'
    · subst hquote
      cases h
      rfl
    by_cases hslash : c = '\\'
    · subst hslash
      obtain ⟨⟨d, u⟩, hd, he⟩ := map_eq_ok_iff.1 h
      cases he
      exact congrArg (Except.map fun p => (some p.1, p.2)) (escaped_ofText hd w _)
    have hlenient : (lenient brackets).char? (.char c) = some c := rfl
    rw [stringStep_of_plain hlenient hquote hslash]
    rw [stringStep_of_plain (d := strict) (k := c) rfl hquote hslash] at h
    split at h
    · cases h
    · rename_i hc
      rw [if_neg hc]
      cases h
      rfl

theorem stringRest_ofText {whole : Text} : ∀ {fuel : Nat} {t s r : Text},
    stringRest strict whole fuel t = .ok (s, r) → ∀ w : Wide,
    stringRest (lenient brackets) w fuel (ofText t) = .ok (ofText s, ofText r)
  | 0, _, _, _, h, _ => nomatch h
  | fuel + 1, t, s, r, h, w => by
    rw [stringRest] at h ⊢
    obtain ⟨⟨o, u⟩, hstep, h⟩ := bind_eq_ok_iff.1 h
    rw [stringStep_ofText hstep]
    cases o with
    | none =>
      cases h
      rfl
    | some c =>
      obtain ⟨⟨s, u⟩, hrest, h⟩ := bind_eq_ok_iff.1 h
      cases h
      simp only [bind, Except.bind, Option.map_some, stringRest_ofText hrest w]
      rfl

theorem string_ofText {fuel : Nat} {t s r : Text} (h : string strict fuel t = .ok (s, r)) :
    string (lenient brackets) fuel (ofText t) = .ok (ofText s, ofText r) := by
  have hdrop : (ofText t).drop 1 = ofText (t.drop 1) := List.map_drop.symm
  rw [string, hdrop]
  exact stringRest_ofText h _

/-! ## Values -/

theorem ofText_injective {s t : Text} (h : ofText s = ofText t) : s = t :=
  (List.map_inj_right fun _ _ hc => Point.char.inj hc).1 h

theorem mapFields_put (k : Text) (v : Value) : ∀ fs : Fields,
    Value.mapFields ofText (fs.put k v) = Fields.put (ofText k) (v.map ofText) (Value.mapFields ofText fs)
  | [] => rfl
  | (j, w) :: fs => by
    rw [Fields.put, Value.mapFields, Fields.put]
    by_cases hj : j = k
    · rw [if_pos hj, if_pos (congrArg ofText hj)]
      rfl
    · rw [if_neg hj, if_neg fun h => hj (ofText_injective h), Value.mapFields, mapFields_put k v fs]

theorem gives_tooDeep {α : Type} (w : Wide) (a : α) : Gives (.error (.tooDeep, w)) a := .inr ⟨_, w, rfl, .inl rfl⟩

/-- Where the strict reader sees a character, the lenient one sees it as well. -/
theorem next?_ofText_of_some {c : Char} {t u : Text} (h : strict.next? t = some (c, u)) :
    (lenient brackets).next? (ofText t) = some (c, ofText u) := by
  rw [next?_ofText, h, Option.map_some]

theorem next?_ofText_ne {c : Char} {t : Text} (h : ∀ u, strict.next? t ≠ some (c, u)) (w : Wide) :
    (lenient brackets).next? (ofText t) ≠ some (c, w) := by
  intro hw
  rw [next?_ofText] at hw
  obtain ⟨⟨c', u⟩, hu, he⟩ := Option.map_eq_some_iff.1 hw
  cases he
  exact h u hu

section Opened

variable {fuel depth : Nat} {t u r : Text} {v : Value}

theorem gives_list (hitems : ∀ {t r : Text} {vs : List Value}, items strict fuel (depth + 1) t = .ok (vs, r) →
    Gives (items (lenient brackets) fuel (depth + 1) (ofText t)) (Value.mapItems ofText vs, ofText r))
    (hnext : strict.next? t = some ('[', u)) (h : value strict (fuel + 1) depth t = .ok (v, r)) :
    Gives (value (lenient brackets) (fuel + 1) depth (ofText t)) (v.map ofText, ofText r) := by
  have hlenient : (lenient brackets).next? (ofText t) = some ('[', ofText u) := next?_ofText_of_some hnext
  cases hopen : (lenient brackets).mayOpen depth with
  | false =>
    rw [value_list_tooDeep hlenient hopen]
    exact gives_tooDeep _ _
  | true =>
    by_cases hclose : ∃ r, strict.next? (strict.skip u) = some (']', r)
    · obtain ⟨w, hclose⟩ := hclose
      rw [value_list_nil hnext (mayOpen_strict depth) hclose] at h
      cases h
      rw [value_list_nil hlenient hopen (by rw [skip_ofText]; exact next?_ofText_of_some hclose)]
      exact gives_ok _
    · have hitem := not_exists.1 hclose
      rw [value_list hnext (mayOpen_strict depth) hitem] at h
      obtain ⟨⟨vs, w⟩, hvs, hv⟩ := map_eq_ok_iff.1 h
      cases hv
      rw [value_list hlenient hopen (by rw [skip_ofText]; exact next?_ofText_ne hitem), skip_ofText]
      exact (hitems hvs).map _

theorem gives_record (hfields : ∀ {t r : Text} {v : Value}, fields strict fuel (depth + 1) [] t = .ok (v, r) →
    Gives (fields (lenient brackets) fuel (depth + 1) [] (ofText t)) (v.map ofText, ofText r))
    (hnext : strict.next? t = some ('\x7b', u)) (h : value strict (fuel + 1) depth t = .ok (v, r)) :
    Gives (value (lenient brackets) (fuel + 1) depth (ofText t)) (v.map ofText, ofText r) := by
  have hlenient : (lenient brackets).next? (ofText t) = some ('\x7b', ofText u) := next?_ofText_of_some hnext
  cases hopen : (lenient brackets).mayOpen depth with
  | false =>
    rw [value_record_tooDeep hlenient hopen]
    exact gives_tooDeep _ _
  | true =>
    by_cases hclose : ∃ r, strict.next? (strict.skip u) = some ('\x7d', r)
    · obtain ⟨w, hclose⟩ := hclose
      rw [value_record_nil hnext (mayOpen_strict depth) hclose] at h
      cases h
      rw [value_record_nil hlenient hopen (by rw [skip_ofText]; exact next?_ofText_of_some hclose)]
      exact gives_ok _
    · have hfield := not_exists.1 hclose
      rw [value_record hnext (mayOpen_strict depth) hfield] at h
      rw [value_record hlenient hopen (by rw [skip_ofText]; exact next?_ofText_ne hfield), skip_ofText]
      exact hfields h

end Opened

/-! By induction on the fuel, as the readers go along side by side. -/
mutual

theorem gives_value : ∀ {fuel depth : Nat} {t r : Text} {v : Value}, value strict fuel depth t = .ok (v, r) →
    Gives (value (lenient brackets) fuel depth (ofText t)) (v.map ofText, ofText r)
  | 0, _, _, _, _, h => nomatch h
  | fuel + 1, depth, t, r, v, h => by
    cases hnext : strict.next? t with
    | none =>
      rw [value_end hnext] at h
      cases h
    | some p =>
      obtain ⟨c, u⟩ := p
      have hlenient : (lenient brackets).next? (ofText t) = some (c, ofText u) := next?_ofText_of_some hnext
      by_cases hmark : c ∈ ['"', '[', '\x7b']
      · simp only [List.mem_cons, List.not_mem_nil, or_false] at hmark
        rcases hmark with rfl | rfl | rfl
        · rw [value_text hnext] at h
          obtain ⟨⟨s, u⟩, hs, hv⟩ := map_eq_ok_iff.1 h
          cases hv
          rw [value_text hlenient, string_ofText hs]
          exact gives_ok _
        · exact gives_list gives_items hnext h
        · exact gives_record gives_fields hnext h
      · rw [value_scalar hnext hmark] at h
        rw [value_scalar hlenient hmark]
        exact gives_wideScalar h

theorem gives_items : ∀ {fuel depth : Nat} {t r : Text} {vs : List Value}, items strict fuel depth t = .ok (vs, r) →
    Gives (items (lenient brackets) fuel depth (ofText t)) (Value.mapItems ofText vs, ofText r)
  | 0, _, _, _, _, h => nomatch h
  | fuel + 1, depth, t, r, vs, h => by
    rw [items] at h ⊢
    obtain ⟨⟨v, u⟩, hv, h⟩ := bind_eq_ok_iff.1 h
    refine (gives_value hv).bind ?_
    dsimp only at h ⊢
    rw [skip_ofText]
    split at h
    · rename_i hclose
      cases h
      rw [next?_ofText_of_some hclose]
      exact gives_ok _
    · rename_i hcomma
      obtain ⟨⟨vs, w⟩, hvs, h⟩ := bind_eq_ok_iff.1 h
      cases h
      simp only [next?_ofText_of_some hcomma, skip_ofText]
      exact (gives_items hvs).bind (gives_ok _)
    · cases h

theorem gives_fields : ∀ {fuel depth : Nat} {done : Fields} {t r : Text} {v : Value},
    fields strict fuel depth done t = .ok (v, r) →
    Gives (fields (lenient brackets) fuel depth (Value.mapFields ofText done) (ofText t)) (v.map ofText, ofText r)
  | 0, _, _, _, _, _, h => nomatch h
  | fuel + 1, depth, done, t, r, v, h => by
    rw [fields] at h ⊢
    split at h
    · rename_i hquote
      obtain ⟨⟨k, u⟩, hk, h⟩ := bind_eq_ok_iff.1 h
      simp only [next?_ofText_of_some hquote, string_ofText hk, bind, Except.bind, skip_ofText]
      dsimp only at h
      split at h
      · rename_i hcolon
        obtain ⟨⟨w, u⟩, hw, h⟩ := bind_eq_ok_iff.1 h
        simp only [next?_ofText_of_some hcolon, skip_ofText]
        refine (gives_value hw).bind ?_
        simp only [skip_ofText, ← mapFields_put]
        dsimp only at h
        split at h
        · rename_i hclose
          cases h
          rw [next?_ofText_of_some hclose]
          exact gives_ok _
        · rename_i hcomma
          simp only [next?_ofText_of_some hcomma, skip_ofText]
          exact gives_fields h
        · cases h
      · cases h
    · cases h

end

/-- **What is read strictly is read leniently**, as the same value, unless a limit is met. -/
theorem readWide_of_read {t : Text} {v : Value} (h : read t = .ok v) (brackets : Nat) :
    readWide brackets (ofText t) = .ok (v.map ofText) ∨
      ∃ e, readWide brackets (ofText t) = .error e ∧ e.fault.IsLimit := by
  have hgives : Gives (readAll (lenient brackets) (ofText t)) (v.map ofText) := by
    obtain ⟨⟨w, r⟩, hw, hend⟩ := bind_eq_ok_iff.1 (mapError_eq_ok_iff.1 h)
    unfold readAll
    rw [length_ofText, skip_ofText]
    refine (gives_value hw).bind ?_
    dsimp only at hend ⊢
    rw [skip_ofText]
    split at hend
    · rename_i hnil
      cases hend
      rw [hnil]
      exact gives_ok _
    · cases hend
  unfold readWide readIn
  obtain hok | ⟨f, w, herror, hf⟩ := hgives
  · exact .inl (by rw [hok, mapError_ok])
  · exact .inr ⟨_, by rw [herror, mapError_error], hf⟩

/-! ## Bytes -/

theorem write_record_eq_cons (l : Layout) (depth : Nat) (fs : Fields) :
    ∃ c ∈ ['\x7d', '"', '\n'], ∃ t, write l depth (.record fs) = '\x7b' :: c :: t := by
  rcases fs with _ | ⟨⟨k, v⟩, fs⟩
  · exact ⟨'\x7d', by simp, [], by rw [write]; rfl⟩
  · rw [write, Layout.key, quote, Layout.newline]
    cases l.indent with
    | none => exact ⟨'"', by simp, _, rfl⟩
    | some n => exact ⟨'\n', by simp, _, rfl⟩

theorem detect_brace {b : UInt8} (hb : b ≠ 0) : ∀ bs : Bytes, detect (0x7B :: b :: bs) = (.utf8, 0)
  | [] => by
    show (if (0x7B : UInt8) = 0 then Encoding.utf16 .big else if b = 0 then .utf16 .little else .utf8, 0) = _
    rw [if_neg (by decide), if_neg hb]
  | [_] => rfl
  | c :: d :: _ => by
    show (if (0x7B : UInt8) = 0 then (if b = 0 then Encoding.utf32 .big else .utf16 .big, 0)
      else if b = 0 then (if c = 0 && d = 0 then .utf32 .little else .utf16 .little, 0) else (.utf8, 0)) = _
    rw [if_neg (by decide), if_neg hb]

/-- A record that is written is decoded as it is written. -/
theorem decode_render_record (l : Layout) (fs : Fields) :
    decode (Utf8.encode (render l (.record fs))) = .ok (ofText (render l (.record fs))) := by
  have hdetect : detect (Utf8.encode (render l (.record fs))) = (.utf8, 0) := by
    obtain ⟨c, hc, t, ht⟩ := write_record_eq_cons l 0 fs
    rw [render, ht]
    simp only [List.mem_cons, List.not_mem_nil, or_false] at hc
    rcases hc with rfl | rfl | rfl <;> exact detect_brace (by decide) _
  rw [decode, hdetect]
  dsimp only [Encoding.decode]
  rw [List.drop_zero, Wide.decode8_encode, mapError_ok]

end Json
end Licensing
