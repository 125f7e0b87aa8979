import Licensing.Proofs.Json.Scalars
import Licensing.Proofs.Json.Steps
import Licensing.Proofs.Json.Strings
/-!
# What is written in JSON is read back

A value without loss is read back as it was written (`read_render`), in every layout whose gaps are white space.  The
reader takes no more than two steps for each character, so its fuel lasts.
-/
namespace Licensing
namespace Json

open Dialect (strict)

mutual

/-- JSON holds the value without loss: no record has two fields of one key, every number is read back from its numeral,
and there is no moment, which would be read back as a text. -/
def Lossless : Value → Prop
  | .null => True
  | .bool _ => True
  | .int _ => True
  | .float x => ScalarReads (numeral x) (.float x)
  | .text _ => True
  | .moment _ => False
  | .list vs => LosslessItems vs
  | .record fs => (fs.map (·.1)).Nodup ∧ LosslessFields fs

def LosslessItems : List Value → Prop
  | [] => True
  | v :: vs => Lossless v ∧ LosslessItems vs

def LosslessFields : List (Text × Value) → Prop
  | [] => True
  | (_, v) :: fs => Lossless v ∧ LosslessFields fs

end

theorem losslessItems_iff : ∀ {vs : List Value}, LosslessItems vs ↔ ∀ v ∈ vs, Lossless v
  | [] => by simp [LosslessItems]
  | v :: vs => by rw [LosslessItems, losslessItems_iff, List.forall_mem_cons]

theorem losslessFields_iff : ∀ {fs : Fields}, LosslessFields fs ↔ ∀ p ∈ fs, Lossless p.2
  | [] => by simp [LosslessFields]
  | (k, v) :: fs => by rw [LosslessFields, losslessFields_iff, List.forall_mem_cons]

theorem lossless_list_iff {vs : List Value} : Lossless (.list vs) ↔ ∀ v ∈ vs, Lossless v := losslessItems_iff

theorem lossless_record_iff {fs : Fields} :
    Lossless (.record fs) ↔ (fs.map (·.1)).Nodup ∧ ∀ p ∈ fs, Lossless p.2 :=
  and_congr_right fun _ => losslessFields_iff

def Blank (t : Text) : Prop := ∀ c ∈ t, isSpace c = true

/-- The gaps of the layout are white space. -/
structure Layout.Spaced (l : Layout) : Prop where
  itemGap : Blank l.itemGap
  keyGap : Blank l.keyGap

theorem Layout.spaced_ofIndent (indent : Option Nat) : (Layout.ofIndent indent).Spaced := by
  cases indent <;> constructor <;> simp [Blank, Layout.ofIndent, Layout.compact, Layout.indented, isSpace]

/-! ## White space -/

theorem Layout.blank_newline (l : Layout) (depth : Nat) : Blank (l.newline depth) := by
  unfold Layout.newline
  split
  · exact fun c hc => nomatch hc
  · intro c hc
    rcases List.mem_cons.1 hc with rfl | hc
    · rfl
    · rw [List.eq_of_mem_replicate hc]
      rfl

theorem skip_append {g : Text} (hg : Blank g) (t : Text) : strict.skip (g ++ t) = strict.skip t :=
  List.dropWhile_append_of_pos hg

theorem skip_cons {c : Char} (hc : isSpace c = false) (t : Text) : strict.skip (c :: t) = c :: t := by
  rw [Dialect.skip, List.dropWhile_cons_of_neg (by simpa [strict] using hc)]

theorem next?_strict (c : Char) (t : Text) : strict.next? (c :: t) = some (c, t) := rfl

theorem mayOpen_strict (depth : Nat) : strict.mayOpen depth = true := rfl

theorem endsNumber_cons {c : Char} (hc : c ∈ [',', ']', '\x7d', ' ', '\t', '\n', '\r']) (t : Text) :
    EndsNumber (c :: t) := by
  intro d hd
  obtain rfl := Option.some.inj hd
  simp only [List.mem_cons, List.not_mem_nil, or_false] at hc
  rcases hc with rfl | rfl | rfl | rfl | rfl | rfl | rfl <;> decide

/-- A number ends in front of a closing bracket, also on a line of its own. -/
theorem endsNumber_gap {g : Text} (hg : Blank g) {c : Char} (hc : c = ']' ∨ c = '\x7d') (t : Text) :
    EndsNumber (g ++ c :: t) := by
  cases g with
  | nil => exact endsNumber_cons (by rcases hc with rfl | rfl <;> decide) t
  | cons d g =>
    have hd := hg d List.mem_cons_self
    simp only [isSpace, Bool.or_eq_true, beq_iff_eq] at hd
    exact endsNumber_cons (by rcases hd with ((rfl | rfl) | rfl) | rfl <;> decide) _

/-! ## One value -/

section OneValue

variable {fuel depth : Nat}

theorem value_of_scalar {t : Text} {p : Value × Text} (h : scalar none t = .ok p) :
    value strict (fuel + 1) depth t = .ok p := by
  cases t with
  | nil => cases h
  | cons c t =>
    have hmarks : ['"', '[', '\x7b'] ⊆ marks := by decide
    rw [value_scalar (next?_strict c t) fun hc => not_mem_marks_of_scalar h (hmarks hc)]
    exact h

theorem value_of_string {t : Text} (ascii : Bool) (h : t.length < fuel) (rest : Text) :
    value strict (fuel + 1) depth (quote ascii t ++ rest) = .ok (.text t, rest) := by
  have hquote : strict.next? (quote ascii t ++ rest) = some ('"', _) := rfl
  rw [value_text hquote, string_quote ascii h]
  rfl

variable {l : Layout}

theorem ScalarReads.eq_cons {t : Text} {v : Value} (h : ScalarReads t v) :
    ∃ c r, t = c :: r ∧ isSpace c = false ∧ c ≠ ']' := by
  have hs := h [] fun _ h0 => nomatch h0
  rw [List.append_nil] at hs
  cases t with
  | nil => cases hs
  | cons c r =>
    have hc := not_mem_marks_of_scalar hs
    simp only [marks, List.mem_cons, List.not_mem_nil, or_false, not_or] at hc
    exact ⟨c, r, rfl, by simp [isSpace, hc], hc.2.2.1⟩

theorem ScalarReads.value {t rest : Text} {v : Value} (h : ScalarReads t v) (hf : 2 * t.length ≤ fuel)
    (hr : EndsNumber rest) : value strict fuel depth (t ++ rest) = .ok (v, rest) := by
  obtain ⟨c, r, rfl, -, -⟩ := h.eq_cons
  cases fuel with
  | zero => simp at hf
  | succ fuel => exact value_of_scalar (h rest hr)

/-- What is written of a value begins with neither white space nor a closing bracket. -/
theorem write_eq_cons (l : Layout) (depth : Nat) : ∀ {v : Value}, Lossless v →
    ∃ c t, write l depth v = c :: t ∧ isSpace c = false ∧ c ≠ ']'
  | .null, _ => scalarReads_null.eq_cons
  | .bool b, _ => (scalarReads_bool b).eq_cons
  | .int n, _ => (scalarReads_int n).eq_cons
  | .float _, h => ScalarReads.eq_cons h
  | .text _, _ => ⟨'"', _, rfl, rfl, by decide⟩
  | .list [], _ => ⟨'[', _, rfl, rfl, by decide⟩
  | .list (_ :: _), _ => ⟨'[', _, rfl, rfl, by decide⟩
  | .record [], _ => ⟨'\x7b', _, rfl, rfl, by decide⟩
  | .record (_ :: _), _ => ⟨'\x7b', _, rfl, rfl, by decide⟩

theorem skip_write {v : Value} (hv : Lossless v) (l : Layout) (depth : Nat) (rest : Text) :
    strict.skip (write l depth v ++ rest) = write l depth v ++ rest := by
  obtain ⟨c, t, h, hc, -⟩ := write_eq_cons l depth hv
  rw [h, List.cons_append, skip_cons hc]

theorem skip_key (l : Layout) (k rest : Text) : strict.skip (l.key k ++ rest) = l.key k ++ rest := skip_cons rfl _

theorem put_of_not_mem : ∀ {fs : Fields} {k : Text} (v : Value), k ∉ fs.map (·.1) → fs.put k v = fs ++ [(k, v)]
  | [], _, _, _ => rfl
  | (j, w) :: fs, k, v, h => by
    rw [List.map_cons, List.mem_cons, not_or] at h
    rw [Fields.put, if_neg (Ne.symm h.1), put_of_not_mem v h.2]
    rfl

/-- A field with a new key is put behind the others. -/
theorem put_of_nodup {done fs : Fields} {k : Text} {v : Value} (h : ((done ++ (k, v) :: fs).map (·.1)).Nodup) :
    done.put k v = done ++ [(k, v)] := by
  rw [List.map_append, List.nodup_append] at h
  exact put_of_not_mem v fun hk => h.2.2 k hk k List.mem_cons_self rfl

/-! ## All values -/

/-- Behind an item stands the next one or the closing bracket. -/
theorem endsNumber_writeItems (depth : Nat) {g : Text} (hg : Blank g) (vs : List Value) (rest : Text) :
    EndsNumber (writeItems l depth vs ++ (g ++ ']' :: rest)) := by
  cases vs with
  | nil => exact endsNumber_gap hg (Or.inl rfl) rest
  | cons v vs => exact endsNumber_cons (by decide) _

theorem endsNumber_writeFields (depth : Nat) {g : Text} (hg : Blank g) (fs : Fields) (rest : Text) :
    EndsNumber (writeFields l depth fs ++ (g ++ '\x7d' :: rest)) := by
  cases fs with
  | nil => exact endsNumber_gap hg (Or.inr rfl) rest
  | cons p fs => exact endsNumber_cons (by decide) _

/-- Once an item is read, only the closing bracket is left of the last one. -/
theorem items_last {v : Value} {t g rest : Text} (hg : Blank g)
    (h : value strict fuel depth t = .ok (v, g ++ ']' :: rest)) :
    items strict (fuel + 1) depth t = .ok ([v], rest) := by
  rw [items, h]
  simp only [bind, Except.bind, skip_append hg, skip_cons (c := ']') rfl]
  rfl

/-- A comma leads to the items that follow. -/
theorem items_more {v : Value} {vs : List Value} {t g u rest : Text} (hg : Blank g)
    (h : value strict fuel depth t = .ok (v, ',' :: (g ++ u))) (hu : strict.skip u = u)
    (hmore : items strict fuel depth u = .ok (vs, rest)) :
    items strict (fuel + 1) depth t = .ok (v :: vs, rest) := by
  rw [items, h]
  simp only [bind, Except.bind, skip_cons (c := ',') rfl, next?_strict, skip_append hg, hu, hmore]
  rfl

theorem next?_key (l : Layout) (k t : Text) : ∃ u, strict.next? (l.key k ++ t) = some ('"', u) := ⟨_, rfl⟩

theorem string_key (l : Layout) {k : Text} (hk : k.length < fuel) (t : Text) :
    string strict fuel (l.key k ++ t) = .ok (k, ':' :: (l.keyGap ++ t)) := by
  rw [Layout.key, List.append_assoc, List.cons_append]
  exact string_quote l.ascii hk _

theorem fields_last (hl : l.Spaced) {done : Fields} {k t : Text} {v : Value} {g rest : Text}
    (hk : k.length < fuel) (ht : strict.skip t = t) (hg : Blank g)
    (h : value strict fuel depth t = .ok (v, g ++ '\x7d' :: rest)) :
    fields strict (fuel + 1) depth done (l.key k ++ t) = .ok (.record (done.put k v), rest) := by
  obtain ⟨u, hu⟩ := next?_key l k t
  rw [fields, hu]
  simp only [bind, Except.bind, string_key l hk, skip_cons (c := ':') rfl, next?_strict, skip_append hl.keyGap, ht, h,
    skip_append hg, skip_cons (c := '\x7d') rfl]
  rfl

theorem fields_more (hl : l.Spaced) {done : Fields} {k t : Text} {v : Value} {g u : Text}
    (hk : k.length < fuel) (ht : strict.skip t = t) (hg : Blank g)
    (h : value strict fuel depth t = .ok (v, ',' :: (g ++ u))) (hu : strict.skip u = u) :
    fields strict (fuel + 1) depth done (l.key k ++ t) = fields strict fuel depth (done.put k v) u := by
  obtain ⟨r, hr⟩ := next?_key l k t
  rw [fields, hr]
  simp only [bind, Except.bind, string_key l hk, skip_cons (c := ':') rfl, next?_strict, skip_append hl.keyGap, ht, h,
    skip_cons (c := ',') rfl, skip_append hg, hu]

theorem Layout.blank_gap (hl : l.Spaced) (depth : Nat) : Blank (l.itemGap ++ l.newline depth) := by
  intro c hc
  rcases List.mem_append.1 hc with hc | hc
  · exact hl.itemGap c hc
  · exact l.blank_newline depth c hc

theorem length_key (l : Layout) (k : Text) : k.length + 3 ≤ (l.key k).length := by
  have := length_quote l.ascii k
  rw [Layout.key, List.length_append, List.length_cons]
  omega

theorem value_open_list {c : Char} {g u : Text} (hg : Blank g) (hc : isSpace c = false) (hne : c ≠ ']') :
    value strict (fuel + 1) depth ('[' :: (g ++ c :: u)) =
      (items strict fuel (depth + 1) (c :: u)).map fun p => (.list p.1, p.2) := by
  have hskip : strict.skip (g ++ c :: u) = c :: u := by rw [skip_append hg, skip_cons hc]
  rw [value_list (next?_strict _ _) (mayOpen_strict depth), hskip]
  intro r hr
  rw [hskip] at hr
  exact hne (congrArg Prod.fst (Option.some.inj hr))

theorem value_open_record {g k u : Text} (hg : Blank g) :
    value strict (fuel + 1) depth ('\x7b' :: (g ++ (l.key k ++ u))) =
      fields strict fuel (depth + 1) [] (l.key k ++ u) := by
  have hskip : strict.skip (g ++ (l.key k ++ u)) = l.key k ++ u := by rw [skip_append hg, skip_key]
  rw [value_record (next?_strict _ _) (mayOpen_strict depth), hskip]
  intro r hr
  rw [hskip] at hr
  cases hr

end OneValue

/-! By induction on the value.  A list of items is read from the value in front on, since only what stands behind that
value tells whether there are more; so `items_write` and `fields_write` take the first value as read. -/
mutual

/-- **A value without loss is read back as it was written**, whatever ends it. -/
theorem value_write (hl : l.Spaced) : ∀ (v : Value), Lossless v → ∀ (fuel depth : Nat) {rest : Text},
    2 * (write l depth v).length ≤ fuel → EndsNumber rest →
    value strict fuel depth (write l depth v ++ rest) = .ok (v, rest)
  | .null, _, _, _, _, hf, hr => scalarReads_null.value hf hr
  | .bool b, _, _, _, _, hf, hr => (scalarReads_bool b).value hf hr
  | .int n, _, _, _, _, hf, hr => (scalarReads_int n).value hf hr
  | .float _, h, _, _, _, hf, hr => ScalarReads.value h hf hr
  | .text t, _, fuel, depth, rest, hf, _ => by
    have := length_quote l.ascii t
    rw [write] at hf ⊢
    cases fuel with
    | zero => omega
    | succ fuel => exact value_of_string l.ascii (by omega) rest
  | .list [], _, fuel, depth, rest, hf, _ => by
    cases fuel with
    | zero => cases hf
    | succ fuel => rfl
  | .list (v :: vs), h, fuel, depth, rest, hf, _ => by
    -- the opening bracket takes two steps: one into the list and one to its first item
    obtain ⟨c, t, hw, hc, hne⟩ := write_eq_cons l (depth + 1) h.1
    simp only [write, List.length_append, List.length_cons] at hf
    obtain ⟨f, rfl⟩ : ∃ f, fuel = f + 1 + 1 := ⟨fuel - 2, by omega⟩
    have hend := endsNumber_writeItems (l := l) (depth + 1) (l.blank_newline depth) vs rest
    have hv := value_write hl v h.1 f (depth + 1) (by omega) hend
    have hitems := items_write hl vs h.2 f (depth + 1) (by omega) (l.blank_newline depth) hv
    simp only [write, List.cons_append, List.append_assoc, List.nil_append] at hitems ⊢
    rw [hw, List.cons_append] at hitems ⊢
    rw [value_open_list (l.blank_newline (depth + 1)) hc hne, hitems]
    rfl
  | .record [], _, fuel, depth, rest, hf, _ => by
    cases fuel with
    | zero => cases hf
    | succ fuel => rfl
  | .record ((k, v) :: fs), h, fuel, depth, rest, hf, _ => by
    have hk := length_key l k
    simp only [write, List.length_append, List.length_cons] at hf
    obtain ⟨f, rfl⟩ : ∃ f, fuel = f + 1 + 1 := ⟨fuel - 2, by omega⟩
    have hend := endsNumber_writeFields (l := l) (depth + 1) (l.blank_newline depth) fs rest
    have hv := value_write hl v h.2.1 f (depth + 1) (by omega) hend
    have hfields := fields_write hl fs h.2.2 f (depth + 1) (d := []) (k := k) (by omega) (l.blank_newline depth) h.1
      (by omega) (skip_write h.2.1 l _ _) hv
    simp only [write, List.cons_append, List.append_assoc, List.nil_append] at hfields ⊢
    rw [value_open_record (l.blank_newline (depth + 1)), hfields]

theorem items_write (hl : l.Spaced) : ∀ (vs : List Value), LosslessItems vs → ∀ (fuel depth : Nat) {v : Value}
    {t g rest : Text}, 2 * (writeItems l depth vs).length ≤ fuel → Blank g →
    value strict fuel depth t = .ok (v, writeItems l depth vs ++ (g ++ ']' :: rest)) →
    items strict (fuel + 1) depth t = .ok (v :: vs, rest)
  | [], _, _, _, _, _, _, _, _, hg, h => items_last hg h
  | w :: vs, hvs, fuel, depth, v, t, g, rest, hf, hg, h => by
    simp only [writeItems, Layout.comma, List.length_append, List.length_cons] at hf
    obtain ⟨f, rfl⟩ : ∃ f, fuel = f + 1 := ⟨fuel - 1, by omega⟩
    have hw := value_write hl w hvs.1 f depth (by omega) (endsNumber_writeItems (l := l) depth hg vs rest)
    have hitems := items_write hl vs hvs.2 f depth (by omega) hg hw
    refine items_more (Layout.blank_gap hl depth) ?_ (skip_write hvs.1 l depth _) hitems
    rw [h]
    simp only [writeItems, Layout.comma, List.cons_append, List.append_assoc]

theorem fields_write (hl : l.Spaced) : ∀ (fs : Fields), LosslessFields fs → ∀ (fuel depth : Nat) {d : Fields}
    {k : Text} {v : Value} {t g rest : Text}, 2 * (writeFields l depth fs).length ≤ fuel → Blank g →
    ((d ++ (k, v) :: fs).map (·.1)).Nodup → k.length < fuel → strict.skip t = t →
    value strict fuel depth t = .ok (v, writeFields l depth fs ++ (g ++ '\x7d' :: rest)) →
    fields strict (fuel + 1) depth d (l.key k ++ t) = .ok (.record (d ++ (k, v) :: fs), rest)
  | [], _, _, _, done, k, v, t, g, rest, _, hg, hnd, hk, ht, h => by
    rw [fields_last hl hk ht hg h, put_of_nodup hnd]
  | (j, w) :: fs, hfs, fuel, depth, done, k, v, t, g, rest, hf, hg, hnd, hk, ht, h => by
    have hj := length_key l j
    simp only [writeFields, Layout.comma, List.length_append, List.length_cons] at hf
    obtain ⟨f, rfl⟩ : ∃ f, fuel = f + 1 := ⟨fuel - 1, by omega⟩
    have hw := value_write hl w hfs.1 f depth (by omega) (endsNumber_writeFields (l := l) depth hg fs rest)
    -- the field that was read stands behind the others when the next one is read
    have hfields := fields_write hl fs hfs.2 f depth (d := done ++ [(k, v)]) (k := j) (by omega) hg
      (by rwa [List.append_assoc]) (by omega) (skip_write hfs.1 l depth _) hw
    rw [fields_more hl hk ht (Layout.blank_gap hl depth) ?_ (skip_key l j _), put_of_nodup hnd, hfields,
      List.append_assoc]
    · rfl
    · rw [h]
      simp only [writeFields, Layout.comma, List.cons_append, List.append_assoc]

end

/-- **The text of a value without loss is read as that value.** -/
theorem read_render (hl : l.Spaced) {v : Value} (hv : Lossless v) : read (render l v) = .ok v := by
  have hskip := skip_write hv l 0 []
  have hw : value strict (2 * (write l 0 v).length + 1) 0 (write l 0 v ++ []) = .ok (v, []) :=
    value_write hl v hv _ 0 (Nat.le_succ _) fun _ h => nomatch h
  rw [List.append_nil] at hskip hw
  rw [read, readIn, readAll, render, hskip]
  simp only [bind, Except.bind, hw]
  rfl

end Json
end Licensing
