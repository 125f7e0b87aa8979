import Mathlib.Algebra.Group.Nat.Defs
import Mathlib.Tactic.SplitIfs
import Licensing.Config.Load
import Licensing.Proofs.Except
import Licensing.Proofs.Json.Scalars
import Licensing.Run
/-!
# Tables of settings

A table is accepted when each of its entries is valid on its own, in whatever order they stand, and then the settings
are the defaults with just the given values in their place.  Otherwise the first entry that is not valid decides, and
the entries behind it do not count (`check_exact`).  What is refused is reported unless the report would have to show
an integer of more than 4300 digits.
-/
namespace Licensing.Config

/-! ## Entries -/

/-- The values that a setting takes. -/
inductive Setting.Takes : Setting → Value → Prop
  | strategy (x : Strategy) : Takes .strategy (.text x.name.toList)
  | licenseStems {ts : List Text} (h : ts ≠ []) (hts : ∀ t ∈ ts, t ≠ []) : Takes .licenseStems (.list (ts.map .text))
  | headerLines {n : Nat} (h : 1 ≤ n) : Takes .headerLines (.int n)
  | maxDepth {n : Nat} (h : 1 ≤ n) (hmax : n ≤ 64) : Takes .maxDepth (.int n)

/-- An entry with the key of a setting and a value that the setting takes. -/
def Valid (p : Text × Value) : Prop := ∃ s : Setting, p.1 = s.key.toList ∧ s.Takes p.2

/-- What is wrong with an entry that is not valid. -/
inductive Offends : Text × Value → Fault → Prop
  | unknownKey {k : Text} {v : Value} (h : ∀ s : Setting, k ≠ s.key.toList) : Offends (k, v) (.unknownKey k)
  | strategy {v : Value} (h : ¬ Setting.strategy.Takes v) :
      Offends ("strategy".toList, v) (.notStrategy .strategy v)
  | licenseStems {v : Value} (h : ¬ Setting.licenseStems.Takes v) :
      Offends ("license-file-stems".toList, v) (.notStems .licenseStems)
  | headerLines {v : Value} (h : ¬ Setting.headerLines.Takes v) :
      Offends ("header-lines".toList, v) (.notPositive .headerLines v)
  | maxDepth {v : Value} (h : ∀ n : Nat, 1 ≤ n → v ≠ .int n) :
      Offends ("max-expression-depth".toList, v) (.notPositive .maxDepth v)
  | tooDeep {n : Nat} (h : 64 < n) : Offends ("max-expression-depth".toList, .int n) (.tooLarge .maxDepth n)

/-- The value that a setting has. -/
def value (c : Config) : Setting → Value
  | .strategy => .text c.strategy.name.toList
  | .licenseStems => .list (c.licenseStems.map .text)
  | .headerLines => .int c.headerLines
  | .maxDepth => .int c.maxDepth

theorem strategy_name_injective {x y : Strategy} (h : x.name.toList = y.name.toList) : x = y := by
  cases x <;> cases y <;> first | rfl | exact absurd h (by decide +kernel)

/-- Settings that have the same values are the same. -/
theorem eq_of_value_eq {c d : Config} (h : ∀ s, c.value s = d.value s) : c = d := by
  have hstrategy := strategy_name_injective (Value.text.inj (h .strategy))
  have hstems := (List.map_inj_right fun _ _ => Value.text.inj).1 (Value.list.inj (h .licenseStems))
  have hlines := Int.ofNat.inj (Value.int.inj (h .headerLines))
  have hdepth := Int.ofNat.inj (Value.int.inj (h .maxDepth))
  cases c
  cases d
  rw [mk.injEq]
  exact ⟨hstrategy, hstems, hlines, hdepth⟩

/-! ## What values are printed as -/

/-- The text begins with a character that begins no strategy's name. -/
def BeginsApart (t : Text) : Prop := ∃ c r, t = c :: r ∧ c ≠ 'f' ∧ c ≠ 's'

theorem BeginsApart.append {t : Text} (h : BeginsApart t) (u : Text) : BeginsApart (t ++ u) := by
  obtain ⟨c, r, rfl, hc⟩ := h
  exact ⟨c, r ++ u, rfl, hc⟩

theorem BeginsApart.ne_name {t : Text} (h : BeginsApart t) (x : Strategy) : t ≠ x.name.toList := by
  rintro rfl
  obtain ⟨c, r, hname, hf, hs⟩ := h
  cases x with
  | file => exact hf (List.cons.inj hname).1.symm
  | spdxHeader => exact hs (List.cons.inj hname).1.symm

theorem beginsApart_of_isDigit {d : Char} (hd : Json.isDigit d = true) (t : Text) : BeginsApart (d :: t) := by
  refine ⟨d, t, rfl, ?_, ?_⟩ <;>
    rintro rfl <;> cases hd

theorem beginsApart_ofNat (n : Nat) : BeginsApart (Text.ofNat n) := by
  obtain ⟨d, ds, hn, hd⟩ := Json.ofNat_eq_cons n
  exact hn ▸ beginsApart_of_isDigit hd ds

theorem beginsApart_ofInt : ∀ n : Int, BeginsApart (Text.ofInt n)
  | .ofNat n => beginsApart_ofNat n
  | .negSucc n => ⟨'-', _, rfl, by decide, by decide⟩

theorem beginsApart_padded (width n : Nat) : BeginsApart (Moment.padded width n) := by
  unfold Moment.padded
  cases width - (Text.ofNat n).length with
  | zero => exact beginsApart_ofNat n
  | succ k => exact (beginsApart_of_isDigit rfl (List.replicate k '0')).append _

theorem beginsApart_moment : ∀ m : Moment, BeginsApart m.printed
  | .day d => ((beginsApart_padded 4 d.year).append _).append _
  | .clock c => (((beginsApart_padded 2 c.hour).append _).append _).append _
  | .both d _ _ => ((((beginsApart_padded 4 d.year).append _).append _).append _).append _

theorem beginsApart_layout {digits : Text} (h : BeginsApart digits) (point : Int) :
    BeginsApart (Binary64.layout digits point) := by
  have hzero (t : Text) : BeginsApart ('0' :: t) := beginsApart_of_isDigit rfl t
  unfold Binary64.layout
  split_ifs with hplain hsmall hlarge
  · exact ((hzero ['.']).append _).append _
  · exact (h.append _).append _
  · obtain ⟨c, r, rfl, hc⟩ := h
    obtain ⟨k, hk⟩ : ∃ k, point.toNat = k + 1 := ⟨point.toNat - 1, by omega⟩
    rw [hk]
    exact ⟨c, _, rfl, hc⟩
  all_goals
    obtain ⟨c, r, rfl, hc⟩ := h
    exact ⟨c, _, rfl, hc⟩

theorem beginsApart_render : ∀ x : Binary64, BeginsApart x.render
  | .finite true _ _ => ⟨'-', _, rfl, by decide, by decide⟩
  | .finite false m e => by
    show BeginsApart (Binary64.magnitude m e)
    unfold Binary64.magnitude
    split_ifs
    · exact ⟨'0', _, rfl, by decide, by decide⟩
    · exact beginsApart_layout (beginsApart_ofNat _) _
  | .infinite true => ⟨'-', _, rfl, by decide, by decide⟩
  | .infinite false => ⟨'i', _, rfl, by decide, by decide⟩
  | .nan => ⟨'n', _, rfl, by decide, by decide⟩

/-- **Only a text is printed as the name of a strategy.** -/
theorem printed?_eq_name_iff {v : Value} {x : Strategy} :
    v.printed? = some x.name.toList ↔ v = .text x.name.toList := by
  unfold Value.printed?
  have hapart (h : BeginsApart v.printed) : (if v.isShowable then some v.printed else none) ≠ some x.name.toList := by
    split_ifs
    · exact fun heq => h.ne_name x (Option.some.inj heq)
    · exact nofun
  cases v with
  | text t => simp [Value.isShowable, Value.printed]
  | null => exact iff_of_false (hapart ⟨'N', _, rfl, by decide, by decide⟩) nofun
  | bool b => cases b <;> exact iff_of_false (hapart ⟨_, _, rfl, by decide, by decide⟩) nofun
  | int n => exact iff_of_false (hapart (beginsApart_ofInt n)) nofun
  | float y => exact iff_of_false (hapart (beginsApart_render y)) nofun
  | moment m => exact iff_of_false (hapart (beginsApart_moment m)) nofun
  | list vs => exact iff_of_false (hapart ⟨'[', _, rfl, by decide, by decide⟩) nofun
  | record fs => exact iff_of_false (hapart ⟨'\x7b', _, rfl, by decide, by decide⟩) nofun

/-! ## One value -/

theorem ofName?_eq_some_iff {t : Text} {x : Strategy} : Strategy.ofName? t = some x ↔ t = x.name.toList := by
  constructor
  · intro h
    have hname := List.find?_some h
    exact (of_decide_eq_true hname).symm
  · rintro rfl
    cases x <;> decide +kernel

theorem strategyOf_eq_ok_iff {s : Setting} {v : Value} {x : Strategy} :
    strategyOf s v = .ok x ↔ v = .text x.name.toList := by
  have hname : v.printed?.bind Strategy.ofName? = some x ↔ v = .text x.name.toList := by
    simp only [Option.bind_eq_some_iff, ofName?_eq_some_iff, exists_eq_right, printed?_eq_name_iff]
  rw [← hname, strategyOf]
  cases v.printed?.bind Strategy.ofName? <;> simp

theorem strategyOf_eq_error {s : Setting} {v : Value} (h : ∀ x : Strategy, v ≠ .text x.name.toList) :
    strategyOf s v = .error (.notStrategy s v) := by
  cases hx : strategyOf s v with
  | ok x => exact absurd (strategyOf_eq_ok_iff.1 hx) (h x)
  | error f =>
    unfold strategyOf at hx
    split at hx
    · cases hx
    · exact hx.symm

theorem stem?_eq_some_iff {v : Value} {t : Text} : stem? v = some t ↔ v = .text t ∧ t ≠ [] := by
  cases v with
  | text s => cases s <;> simp +contextual [stem?, eq_comm]
  | _ => simp [stem?]

theorem mapM_stem?_eq_some_iff : ∀ {vs : List Value} {ts : List Text},
    vs.mapM stem? = some ts ↔ vs = ts.map .text ∧ ∀ t ∈ ts, t ≠ []
  | [], ts => by cases ts <;> simp
  | v :: vs, ts => by
    rw [List.mapM_cons]
    simp only [bind, Option.bind_eq_some_iff, stem?_eq_some_iff, mapM_stem?_eq_some_iff, pure, Option.some.injEq]
    constructor
    · rintro ⟨t, ⟨rfl, ht⟩, us, ⟨rfl, hus⟩, rfl⟩
      exact ⟨rfl, List.forall_mem_cons.2 ⟨ht, hus⟩⟩
    · rintro ⟨hv, hts⟩
      cases ts with
      | nil => cases hv
      | cons t ts =>
        obtain ⟨rfl, rfl⟩ := List.cons.inj hv
        obtain ⟨ht, hts⟩ := List.forall_mem_cons.1 hts
        exact ⟨t, ⟨rfl, ht⟩, ts, ⟨rfl, hts⟩, rfl⟩

theorem stemsOf_eq_ok_iff {s : Setting} {v : Value} {ts : List Text} :
    stemsOf s v = .ok ts ↔ v = .list (ts.map .text) ∧ ts ≠ [] ∧ ∀ t ∈ ts, t ≠ [] := by
  cases v with
  | list vs =>
    rw [Value.list.injEq]
    cases vs with
    | nil => cases ts <;> simp [stemsOf]
    | cons v vs =>
      have hts (h : v :: vs = ts.map .text) : ts ≠ [] := by
        rintro rfl
        cases h
      rw [and_left_comm, ← mapM_stem?_eq_some_iff, and_iff_right_of_imp fun h => hts (mapM_stem?_eq_some_iff.1 h).1]
      simp only [stemsOf]
      cases (v :: vs).mapM stem? <;> simp
  | _ => simp [stemsOf]

theorem stemsOf_eq_error {s : Setting} {v : Value} (h : ∀ ts, stemsOf s v ≠ .ok ts) :
    stemsOf s v = .error (.notStems s) := by
  unfold stemsOf at h ⊢
  split at h
  · split at h
    · exact absurd rfl (h _)
    · simp_all
  · simp_all

theorem positive_eq_ok_iff {s : Setting} {v : Value} {n : Nat} : positive s v = .ok n ↔ v = .int n ∧ 1 ≤ n := by
  cases v with
  | int m =>
    simp only [positive, Value.int.injEq]
    split <;> simp <;> omega
  | _ => simp [positive]

theorem positive_eq_error {s : Setting} {v : Value} (h : ∀ n : Nat, 1 ≤ n → v ≠ .int n) :
    positive s v = .error (.notPositive s v) := by
  cases v with
  | int m =>
    have hm : m < 1 := by
      refine Int.not_le.1 fun hm => h m.toNat (by omega) ?_
      rw [Int.toNat_of_nonneg (by omega)]
    rw [positive, if_pos hm]
  | _ => rfl

/-! ## One entry -/

theorem ofKey?_eq_some_iff {k : Text} {s : Setting} : Setting.ofKey? k = some s ↔ k = s.key.toList := by
  constructor
  · intro h
    have hkey := List.find?_some h
    exact (of_decide_eq_true hkey).symm
  · rintro rfl
    cases s <;> decide +kernel

theorem ofKey?_eq_none_iff {k : Text} : Setting.ofKey? k = none ↔ ∀ s : Setting, k ≠ s.key.toList := by
  simp only [Option.eq_none_iff_forall_ne_some, ne_eq, ofKey?_eq_some_iff]

/-- A setting can be given each value that it takes, and no other setting changes with it. -/
theorem exists_set {s : Setting} {v : Value} (h : s.Takes v) (c : Config) :
    ∃ c', c.set s v = .ok c' ∧ ∀ r, c'.value r = if r = s then v else c.value r := by
  cases h with
  | strategy x =>
    refine ⟨{ c with strategy := x }, ?_, fun r => by cases r <;> rfl⟩
    rw [set, strategyOf_eq_ok_iff.2 rfl]
    rfl
  | @licenseStems ts hne hts =>
    refine ⟨{ c with licenseStems := ts }, ?_, fun r => by cases r <;> rfl⟩
    rw [set, stemsOf_eq_ok_iff.2 ⟨rfl, hne, hts⟩]
    rfl
  | @headerLines n hn =>
    refine ⟨{ c with headerLines := n }, ?_, fun r => by cases r <;> rfl⟩
    rw [set, positive_eq_ok_iff.2 ⟨rfl, hn⟩]
    rfl
  | @maxDepth n hn hmax =>
    refine ⟨{ c with maxDepth := n }, ?_, fun r => by cases r <;> rfl⟩
    have hdepth : depth .maxDepth (.int n) = .ok n := by
      rw [depth, positive_eq_ok_iff.2 ⟨rfl, hn⟩]
      exact if_neg (Nat.not_lt.2 hmax)
    rw [set, hdepth]
    rfl

theorem Valid.exists_setKey {p : Text × Value} (h : Valid p) (c : Config) : ∃ c', c.setKey p.1 p.2 = .ok c' ∧
    ∀ s, c'.value s = if p.1 = s.key.toList then p.2 else c.value s := by
  obtain ⟨s, hkey, htakes⟩ := h
  obtain ⟨c', hset, hvalue⟩ := exists_set htakes c
  have hs := ofKey?_eq_some_iff.2 hkey
  refine ⟨c', by rw [setKey, hs]; exact hset, fun r => ?_⟩
  rw [hvalue]
  by_cases hr : r = s
  · rw [if_pos hr, if_pos (by rw [hkey, hr])]
  · rw [if_neg hr, if_neg fun h => hr ?_]
    exact Option.some.inj ((ofKey?_eq_some_iff.2 h).symm.trans hs)

/-- An entry that is not valid is refused with its fault, whatever the settings are. -/
theorem Offends.setKey_eq {p : Text × Value} {f : Fault} (h : Offends p f) (c : Config) :
    c.setKey p.1 p.2 = .error f := by
  have hset (s : Setting) {v : Value} (hs : c.set s v = .error f) : c.setKey s.key.toList v = .error f := by
    rw [setKey, ofKey?_eq_some_iff.2 rfl]
    exact hs
  cases h with
  | unknownKey h =>
    dsimp only
    rw [setKey, ofKey?_eq_none_iff.2 h]
  | strategy h =>
    refine hset .strategy (map_eq_error_iff.2 (strategyOf_eq_error ?_))
    rintro x rfl
    exact h (.strategy x)
  | licenseStems h =>
    refine hset .licenseStems (map_eq_error_iff.2 (stemsOf_eq_error fun ts hts => ?_))
    obtain ⟨rfl, hne, hts⟩ := stemsOf_eq_ok_iff.1 hts
    exact h (.licenseStems hne hts)
  | headerLines h =>
    refine hset .headerLines (map_eq_error_iff.2 (positive_eq_error ?_))
    rintro n hn rfl
    exact h (.headerLines hn)
  | maxDepth h =>
    refine hset .maxDepth (map_eq_error_iff.2 (bind_eq_error_iff.2 (.inl ?_)))
    exact positive_eq_error h
  | @tooDeep n h =>
    refine hset .maxDepth (map_eq_error_iff.2 (bind_eq_error_iff.2 (.inr ⟨n, ?_, ?_⟩)))
    · exact positive_eq_ok_iff.2 ⟨rfl, by omega⟩
    · exact if_pos h

theorem Offends.not_valid {p : Text × Value} {f : Fault} (h : Offends p f) : ¬ Valid p := by
  intro hv
  obtain ⟨c, hc, -⟩ := hv.exists_setKey defaults
  rw [h.setKey_eq] at hc
  cases hc

theorem exists_offends {p : Text × Value} (h : ¬ Valid p) : ∃ f, Offends p f := by
  obtain ⟨k, v⟩ := p
  cases hs : Setting.ofKey? k with
  | none => exact ⟨_, .unknownKey (ofKey?_eq_none_iff.1 hs)⟩
  | some s =>
    obtain rfl := ofKey?_eq_some_iff.1 hs
    have htakes : ¬ s.Takes v := fun ht => h ⟨s, rfl, ht⟩
    cases s with
    | strategy => exact ⟨_, .strategy htakes⟩
    | licenseStems => exact ⟨_, .licenseStems htakes⟩
    | headerLines => exact ⟨_, .headerLines htakes⟩
    | maxDepth =>
      by_cases hn : ∃ n : Nat, 1 ≤ n ∧ v = .int n
      · obtain ⟨n, hn, rfl⟩ := hn
        exact ⟨_, .tooDeep (Nat.lt_of_not_le fun hmax => htakes (.maxDepth hn hmax))⟩
      · exact ⟨_, .maxDepth fun n h1 hv => hn ⟨n, h1, hv⟩⟩

/-! ## Whole tables -/

/-- A key that stands once has the value of its entry. -/
theorem lookup_eq_some_iff_mem {fs : Fields} (hkeys : (fs.map Prod.fst).Nodup) {k : Text} {v : Value} :
    fs.lookup k = some v ↔ (k, v) ∈ fs := by
  rw [List.lookup_eq_some_iff]
  constructor
  · rintro ⟨pre, post, rfl, -⟩
    exact List.mem_append_right pre List.mem_cons_self
  · intro hm
    obtain ⟨pre, post, rfl⟩ := List.append_of_mem hm
    refine ⟨pre, post, rfl, fun p hp => bne_iff_ne.2 ?_⟩
    rw [List.map_append, List.nodup_append] at hkeys
    exact (hkeys.2.2 p.1 (List.mem_map_of_mem hp) k List.mem_cons_self).symm

theorem lookup_eq_of_perm {fs gs : Fields} (hkeys : (fs.map Prod.fst).Nodup) (h : fs.Perm gs) (k : Text) :
    fs.lookup k = gs.lookup k := by
  ext v
  rw [lookup_eq_some_iff_mem hkeys, lookup_eq_some_iff_mem ((h.map Prod.fst).nodup hkeys), h.mem_iff]

/-- By induction on the entries that are still to come, from any settings. -/
theorem exists_setAll : ∀ {fs : Fields} (c : Config), (fs.map Prod.fst).Nodup → (∀ p ∈ fs, Valid p) →
    ∃ c', c.setAll fs = .ok c' ∧ ∀ s, c'.value s = (fs.lookup s.key.toList).getD (c.value s)
  | [], c, _, _ => ⟨c, rfl, fun _ => rfl⟩
  | (k, v) :: fs, c, hkeys, hfs => by
    obtain ⟨hk, hkeys⟩ : k ∉ fs.map Prod.fst ∧ (fs.map Prod.fst).Nodup := List.nodup_cons.1 hkeys
    obtain ⟨hp, hfs⟩ := List.forall_mem_cons.1 hfs
    obtain ⟨c', hset, hvalue⟩ := hp.exists_setKey c
    obtain ⟨d, hall, hd⟩ := exists_setAll c' hkeys hfs
    refine ⟨d, by rw [setAll, hset]; exact hall, fun s => ?_⟩
    rw [hd, hvalue, List.lookup_cons]
    by_cases hs : k = s.key.toList
    · -- no later entry has this key, so the value stays
      have hlater : fs.lookup k = none := by
        refine List.lookup_eq_none_iff.2 fun q hq => bne_iff_ne.2 ?_
        rintro rfl
        exact hk (List.mem_map_of_mem hq)
      rw [← hs, hlater, beq_self_eq_true, if_pos rfl]
      rfl
    · rw [if_neg hs, beq_eq_false_iff_ne.2 (Ne.symm hs)]

/-- The first entry that is not valid decides, whatever stands behind it. -/
theorem setAll_of_offends : ∀ {pre : Fields} (c : Config) {p : Text × Value} {post : Fields} {f : Fault},
    (∀ q ∈ pre, Valid q) → Offends p f → c.setAll (pre ++ p :: post) = .error f
  | [], c, p, post, f, _, h => by
    rw [List.nil_append, setAll, h.setKey_eq c]
  | q :: pre, c, p, post, f, hpre, h => by
    obtain ⟨hq, hpre⟩ := List.forall_mem_cons.1 hpre
    obtain ⟨c', hset, -⟩ := hq.exists_setKey c
    rw [List.cons_append, setAll, hset]
    exact setAll_of_offends c' hpre h

theorem exists_first_offence {fs : Fields} (h : ¬ ∀ p ∈ fs, Valid p) :
    ∃ pre p post f, fs = pre ++ p :: post ∧ (∀ q ∈ pre, Valid q) ∧ Offends p f := by
  induction fs with
  | nil => exact absurd (fun p hp => nomatch hp) h
  | cons p fs ih =>
    by_cases hp : Valid p
    · obtain ⟨pre, q, post, f, rfl, hpre, hq⟩ := ih fun hfs => h (List.forall_mem_cons.2 ⟨hp, hfs⟩)
      exact ⟨p :: pre, q, post, f, rfl, List.forall_mem_cons.2 ⟨hp, hpre⟩, hq⟩
    · obtain ⟨f, hf⟩ := exists_offends hp
      exact ⟨[], p, fs, f, rfl, by simp, hf⟩

/-! ## Checked tables -/

section Checked

variable {source : Text} {fs : Fields}

theorem exists_check_ok (hkeys : (fs.map Prod.fst).Nodup) (hfs : ∀ p ∈ fs, Valid p) :
    ∃ c, (check source fs).result = .ok c ∧ ∀ s, c.value s = (fs.lookup s.key.toList).getD (defaults.value s) := by
  obtain ⟨c, hc, hvalue⟩ := exists_setAll defaults hkeys hfs
  refine ⟨c, ?_, hvalue⟩
  rw [check, Run.result_ofExcept, ofTable, hc]
  rfl

theorem check_of_offends {pre post : Fields} {p : Text × Value} {f : Fault} (hpre : ∀ q ∈ pre, Valid q)
    (h : Offends p f) : (check source (pre ++ p :: post)).result = .error (refusal ⟨source, f⟩) := by
  rw [check, Run.result_ofExcept, ofTable, setAll_of_offends defaults hpre h]
  rfl

theorem check_eq_ok_iff (hkeys : (fs.map Prod.fst).Nodup) {c : Config} : (check source fs).result = .ok c ↔
    (∀ p ∈ fs, Valid p) ∧ ∀ s, c.value s = (fs.lookup s.key.toList).getD (defaults.value s) := by
  constructor
  · intro h
    by_cases hfs : ∀ p ∈ fs, Valid p
    · obtain ⟨d, hd, hvalue⟩ := @exists_check_ok source _ hkeys hfs
      obtain rfl := Except.ok.inj (hd.symm.trans h)
      exact ⟨hfs, hvalue⟩
    · obtain ⟨pre, p, post, f, rfl, hpre, hp⟩ := exists_first_offence hfs
      rw [check_of_offends hpre hp] at h
      cases h
  · rintro ⟨hfs, hvalue⟩
    obtain ⟨d, hd, hd'⟩ := @exists_check_ok source _ hkeys hfs
    rw [hd, eq_of_value_eq fun s => (hd' s).trans (hvalue s).symm]

theorem check_eq_error_iff (hkeys : (fs.map Prod.fst).Nodup) :
    (∃ e, (check source fs).result = .error e) ↔ ¬ ∀ p ∈ fs, Valid p := by
  constructor
  · rintro ⟨e, he⟩ hfs
    obtain ⟨c, hc, -⟩ := @exists_check_ok source _ hkeys hfs
    rw [hc] at he
    cases he
  · intro hfs
    obtain ⟨pre, p, post, f, rfl, hpre, hp⟩ := exists_first_offence hfs
    exact ⟨_, check_of_offends hpre hp⟩

/-- The default of every setting is a value that the setting takes. -/
theorem takes_default (s : Setting) : s.Takes (defaults.value s) := by
  cases s with
  | strategy => exact .strategy .file
  | licenseStems => exact .licenseStems (List.cons_ne_nil _ _) (by decide +kernel)
  | headerLines => exact .headerLines (by decide)
  | maxDepth => exact .maxDepth (by decide) (by decide)

theorem takes_value {c : Config} (hkeys : (fs.map Prod.fst).Nodup) (h : (check source fs).result = .ok c)
    (s : Setting) : s.Takes (c.value s) := by
  obtain ⟨hfs, hvalue⟩ := (check_eq_ok_iff hkeys).1 h
  rw [hvalue]
  cases hs : fs.lookup s.key.toList with
  | none => exact takes_default s
  | some v =>
    obtain ⟨r, hr, htakes⟩ := hfs _ ((lookup_eq_some_iff_mem hkeys).1 hs)
    obtain rfl := Option.some.inj ((ofKey?_eq_some_iff.2 rfl).symm.trans (ofKey?_eq_some_iff.2 hr))
    exact htakes

theorem le_headerLines_of_takes {n : Nat} (h : Setting.headerLines.Takes (.int n)) : 1 ≤ n := by
  generalize hv : Value.int n = v at h
  cases h with
  | headerLines h =>
    obtain rfl := Int.ofNat.inj (Value.int.inj hv)
    exact h

theorem maxDepth_of_takes {n : Nat} (h : Setting.maxDepth.Takes (.int n)) : 1 ≤ n ∧ n ≤ 64 := by
  generalize hv : Value.int n = v at h
  cases h with
  | maxDepth h hmax =>
    obtain rfl := Int.ofNat.inj (Value.int.inj hv)
    exact ⟨h, hmax⟩

theorem stems_ne_nil_of_takes {ts : List Text} (h : Setting.licenseStems.Takes (.list (ts.map .text))) : ts ≠ [] := by
  generalize hv : Value.list (ts.map .text) = v at h
  cases h with
  | licenseStems h hts =>
    obtain rfl := (List.map_inj_right fun _ _ => Value.text.inj).1 (Value.list.inj hv)
    exact h

/-- **A table is accepted as a whole or refused at its first bad entry.**  For a table with distinct keys: it is
accepted exactly if each entry is valid on its own, and the settings are then its values over the defaults.  The order
of the entries has no part in whether it is accepted and in what comes of it.  A table that is not accepted is refused
for its first entry that is not valid, with that entry's fault behind the name of the table, or without a report where
the report would have to show an integer that has too many digits.  All settings are in their ranges. -/
theorem check_exact (source : Text) {fs : Fields} (hkeys : (fs.map Prod.fst).Nodup) :
    (∀ c, (check source fs).result = .ok c ↔
      (∀ p ∈ fs, Valid p) ∧ ∀ s, c.value s = (fs.lookup s.key.toList).getD (defaults.value s)) ∧
    ((∀ p ∈ fs, Valid p) → ∃ c, (check source fs).result = .ok c) ∧
    (∀ gs, fs.Perm gs → (∀ c, (check source gs).result = .ok c ↔ (check source fs).result = .ok c) ∧
      ((∃ e, (check source gs).result = .error e) ↔ ∃ e, (check source fs).result = .error e)) ∧
    (∀ pre p post, fs = pre ++ p :: post → (∀ q ∈ pre, Valid q) → ¬ Valid p → ∃ f, Offends p f ∧
      (check source fs).result = .error (if f.isShowable then .refused ⟨source, f⟩ else .unshowable) ∧
      Error.message ⟨source, f⟩ = source ++ ": ".toList ++ f.message) ∧
    ∀ c, (check source fs).result = .ok c →
      1 ≤ c.headerLines ∧ 1 ≤ c.maxDepth ∧ c.maxDepth ≤ 64 ∧ c.licenseStems ≠ [] := by
  refine ⟨fun c => check_eq_ok_iff hkeys, fun hfs => ?_, fun gs h => ?_, ?_, fun c hc => ?_⟩
  · obtain ⟨c, hc, -⟩ := exists_check_ok hkeys hfs
    exact ⟨c, hc⟩
  · have hgs : (gs.map Prod.fst).Nodup := (h.map Prod.fst).nodup hkeys
    have hvalid : (∀ p ∈ gs, Valid p) ↔ ∀ p ∈ fs, Valid p := by simp only [h.mem_iff]
    refine ⟨fun c => ?_, ?_⟩
    · rw [check_eq_ok_iff hgs, check_eq_ok_iff hkeys, hvalid]
      simp only [lookup_eq_of_perm hkeys h]
    · rw [check_eq_error_iff hgs, check_eq_error_iff hkeys, hvalid]
  · rintro pre p post rfl hpre hp
    obtain ⟨f, hf⟩ := exists_offends hp
    exact ⟨f, hf, check_of_offends hpre hf, rfl⟩
  · have htakes := takes_value hkeys hc
    obtain ⟨hdepth, hmax⟩ := maxDepth_of_takes (htakes .maxDepth)
    exact ⟨le_headerLines_of_takes (htakes .headerLines), hdepth, hmax, stems_ne_nil_of_takes (htakes .licenseStems)⟩

end Checked

/-- The second entry is a list that only looks like a strategy, and the third has no setting; the second is reported,
and no other order is accepted. -/
theorem check_exact_second_of_three :
    let fs : Fields := [("header-lines".toList, .int 5), ("strategy".toList, .list [.text "file".toList]),
      ("colour".toList, .bool true)]
    (fs.map Prod.fst).Nodup ∧
      (check "t".toList fs).result =
        .error (.refused ⟨"t".toList, .notStrategy .strategy (.list [.text "file".toList])⟩) ∧
      ∀ gs, fs.Perm gs → ∃ e, (check "t".toList gs).result = .error e := by
  intro fs
  have hkeys : (fs.map Prod.fst).Nodup := by decide +kernel
  obtain ⟨-, -, hperm, hfirst, -⟩ := check_exact "t".toList hkeys
  have hlines : Valid ("header-lines".toList, .int 5) := ⟨.headerLines, rfl, .headerLines (n := 5) (by decide)⟩
  have hlist : Offends ("strategy".toList, .list [.text "file".toList])
      (.notStrategy .strategy (.list [.text "file".toList])) := .strategy nofun
  obtain ⟨f, hf, hresult, -⟩ := hfirst [_] _ [_] rfl (List.forall_mem_singleton.2 hlines) hlist.not_valid
  cases hf with
  | unknownKey h => exact absurd rfl (h .strategy)
  | strategy h => exact ⟨hkeys, hresult, fun gs h => (hperm gs h).2.2 ⟨_, hresult⟩⟩

theorem isShowable_int_iff {n : Nat} : (Value.int n).isShowable = true ↔ n < 10 ^ Text.maxDigits := by
  rw [Value.isShowable, decide_eq_true_eq]
  exact Nat.length_toDigits_le_iff (by decide) (by decide)

/-- The least number of 4301 digits is refused as a depth, and without a report. -/
theorem check_unshowable :
    let n : Nat := 10 ^ Text.maxDigits
    let fs : Fields := [("max-expression-depth".toList, .int n)]
    (fs.map Prod.fst).Nodup ∧ Offends ("max-expression-depth".toList, .int n) (.tooLarge .maxDepth n) ∧
      ∀ source, (check source fs).result = .error .unshowable ∧
        ∀ e, (check source fs).result ≠ .error (.refused e) := by
  intro n fs
  have hlarge : 64 < n := Nat.lt_of_lt_of_le (by decide : 64 < 10 ^ 2) (Nat.pow_le_pow_right (by decide) (by decide))
  have hhidden : (Fault.tooLarge .maxDepth n).isShowable = false := by
    rw [Fault.isShowable, Fault.value?, Option.all_some, Bool.eq_false_iff, ne_eq, isShowable_int_iff]
    exact Nat.lt_irrefl n
  have hresult (source : Text) : (check source fs).result = .error .unshowable := by
    have h := @check_of_offends source [] [] _ _ (by simp) (.tooDeep hlarge)
    rwa [refusal, hhidden] at h
  refine ⟨List.pairwise_singleton _ _, .tooDeep hlarge, fun source => ⟨hresult source, fun e he => ?_⟩⟩
  rw [hresult] at he
  cases he

end Licensing.Config
