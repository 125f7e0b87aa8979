import Licensing.Proofs.Document.Records
import Licensing.Proofs.Header.Tags
import Licensing.Proofs.Header.Years
/-!
# The copyright statements of a header

Each line that states a copyright gives one statement, in the order of the lines (`statements_eq_iff`): the rest of the
line from the leftmost keyword on, cleaned, with the year that it names.  More lines add statements behind the others
(`statements_exact`).
-/
namespace Licensing
namespace Header

/-- How a statement begins.  Behind the plain word stands no other character of a word. -/
inductive Begins : Text → Prop
  | tag (t : Text) : Begins (fileCopyrightWord ++ t)
  | sign (t : Text) : Begins (copyrightSign ++ t)
  | word {t : Text} (h : ∀ c, t.head? = some c → Text.isWord c = false) : Begins (copyrightWord ++ t)

/-- The statement of a line: what stands there from the leftmost beginning on, cleaned, and the year in it. -/
structure States (line : Text) (s : Statement) : Prop where
  text : ∃ a t, Text.Leftmost Begins line a t ∧ Cleaned t s.text
  year : ∀ y, s.year = some y ↔ FirstYear s.text y

/-- The statements of some lines, one for each line in which a statement begins anywhere. -/
inductive Collects : List Text → List Statement → Prop
  | nil : Collects [] []
  | keep {line : Text} {s : Statement} {ls : List Text} {ss : List Statement} (h : States line s)
      (hr : Collects ls ss) : Collects (line :: ls) (s :: ss)
  | skip {line : Text} {ls : List Text} {ss : List Statement} (h : ∀ a t, line = a ++ t → ¬ Begins t)
      (hr : Collects ls ss) : Collects (line :: ls) ss

/-! ## The beginning of a statement -/

theorem beginsStatement_iff {t : Text} : beginsStatement t = true ↔ Begins t := by
  simp only [beginsStatement, Text.startsWith, Bool.or_eq_true, Option.isSome_iff_exists, Text.after?_eq_some_iff]
  constructor
  · rintro ((⟨r, rfl⟩ | ⟨r, rfl⟩) | h)
    · exact .tag r
    · exact .sign r
    · cases hr : Text.after? copyrightWord t with
      | none => rw [hr] at h; cases h
      | some r =>
        obtain rfl := Text.after?_eq_some_iff.1 hr
        refine .word fun c hc => ?_
        simpa [hr, hc] using h
  · rintro (r | r | h)
    · exact .inl (.inl ⟨r, rfl⟩)
    · exact .inl (.inr ⟨r, rfl⟩)
    · rename_i r
      refine .inr ?_
      rw [Text.after?_append]
      cases hr : r.head? with
      | none => simp [hr]
      | some c => simp [hr, h c hr]

/-- A statement begins neither with white space nor with an end of a comment. -/
theorem Begins.exists_cons {t : Text} (h : Begins t) :
    ∃ c r, t = c :: r ∧ Text.isBlank c = false ∧ c ≠ '*' ∧ c ≠ '-' := by
  cases h with
  | tag r => exact ⟨'S', _, rfl, by decide, by decide, by decide⟩
  | sign r => exact ⟨_, r, rfl, by decide, by decide, by decide⟩
  | @word r h => exact ⟨'C', _, rfl, by decide, by decide, by decide⟩

theorem Begins.clean_eq_iff {t r : Text} (h : Begins t) : clean t = r ↔ Cleaned t r := by
  obtain ⟨c, s, rfl, hc, -, -⟩ := h.exists_cons
  rw [Header.clean_eq_iff, trimStart_of_head hc]

/-- **A cleaned statement is never empty.** -/
theorem Begins.ne_nil_of_cleaned {t r : Text} (h : Begins t) (hr : Cleaned t r) : r ≠ [] := by
  rintro rfl
  obtain ⟨c, s, rfl, hc, hstar, harrow⟩ := h.exists_cons
  obtain ⟨⟨u, hu, htrailer⟩, -⟩ := hr
  obtain rfl : c :: s = u := hu
  exact not_trailer_cons hc hstar harrow s htrailer

theorem not_begins_nil : ¬ Begins [] := by
  intro h
  obtain ⟨c, r, hcons, -⟩ := h.exists_cons
  cases hcons

/-! ## One line -/

theorem statement?_eq_some_iff {line t : Text} : statement? line = some t ↔ ∃ a, Text.Leftmost Begins line a t := by
  induction line with
  | nil =>
    refine iff_of_false (Option.some_ne_none t).symm fun ⟨a, h⟩ => ?_
    exact not_begins_nil (Text.leftmost_nil_iff.1 h).2.2
  | cons c line ih =>
    rw [statement?]
    by_cases h : Begins (c :: line)
    · rw [if_pos (beginsStatement_iff.2 h)]
      simp only [Text.leftmost_cons_of_holds h, exists_eq_left, Option.some.injEq, eq_comm]
    · rw [if_neg fun hb => h (beginsStatement_iff.1 hb), ih]
      simp only [Text.leftmost_cons_of_not h]
      exact ⟨fun ⟨a, ha⟩ => ⟨c :: a, a, rfl, ha⟩, fun ⟨_, a, _, ha⟩ => ⟨a, ha⟩⟩

theorem statement?_eq_none_iff {line : Text} : statement? line = none ↔ ∀ a t, line = a ++ t → ¬ Begins t := by
  induction line with
  | nil =>
    refine iff_of_true rfl fun a t ht h => ?_
    rw [(List.append_eq_nil_iff.1 ht.symm).2] at h
    exact not_begins_nil h
  | cons c line ih =>
    rw [statement?]
    by_cases h : Begins (c :: line)
    · rw [if_pos (beginsStatement_iff.2 h)]
      exact iff_of_false (Option.some_ne_none _) fun hnone => hnone [] _ rfl h
    · rw [if_neg fun hb => h (beginsStatement_iff.1 hb), ih]
      constructor
      · intro hnone a t ht
        cases a with
        | nil =>
          obtain rfl : c :: line = t := ht
          exact h
        | cons d a => exact hnone a t (List.cons.inj ht).2
      · exact fun hnone a t ht => hnone (c :: a) t (by rw [ht]; rfl)

theorem lineStatement?_eq_some_iff {line : Text} {s : Statement} : lineStatement? line = some s ↔ States line s := by
  rw [lineStatement?, Option.map_eq_some_iff]
  constructor
  · rintro ⟨t, ht, rfl⟩
    obtain ⟨a, hleft⟩ := statement?_eq_some_iff.1 ht
    exact ⟨⟨a, t, hleft, hleft.holds.clean_eq_iff.1 rfl⟩, fun y => year?_eq_some_iff⟩
  · rintro ⟨⟨a, t, hleft, hclean⟩, hyear⟩
    obtain ⟨text, year⟩ := s
    obtain rfl : clean t = text := hleft.holds.clean_eq_iff.2 hclean
    have hyear : year? (clean t) = year := Option.ext fun y => year?_eq_some_iff.trans (hyear y).symm
    exact ⟨t, statement?_eq_some_iff.2 ⟨a, hleft⟩, by rw [hyear]⟩

theorem lineStatement?_eq_none_iff {line : Text} : lineStatement? line = none ↔ ∀ a t, line = a ++ t → ¬ Begins t := by
  rw [lineStatement?, Option.map_eq_none_iff, statement?_eq_none_iff]

theorem States.text_ne_nil {line : Text} {s : Statement} (h : States line s) : s.text ≠ [] := by
  obtain ⟨a, t, hleft, hclean⟩ := h.text
  exact hleft.holds.ne_nil_of_cleaned hclean

theorem States.year_le {line : Text} {s : Statement} (h : States line s) {y : Nat} (hy : s.year = some y) : y ≤ 9999 :=
  ((h.year y).1 hy).le

/-! ## All lines -/

/-- **The statements of some lines are one for each line that has one, in their order.** -/
theorem statements_eq_iff {ls : List Text} {ss : List Statement} : statements ls = ss ↔ Collects ls ss := by
  constructor
  · rintro rfl
    induction ls with
    | nil => exact .nil
    | cons line ls ih =>
      rw [statements, List.filterMap_cons]
      cases h : lineStatement? line with
      | none => exact .skip (lineStatement?_eq_none_iff.1 h) ih
      | some s => exact .keep (lineStatement?_eq_some_iff.1 h) ih
  · intro h
    induction h with
    | nil => rfl
    | keep h _ ih =>
      rw [statements, List.filterMap_cons, lineStatement?_eq_some_iff.2 h]
      exact congrArg _ ih
    | skip h _ ih =>
      rw [statements, List.filterMap_cons, lineStatement?_eq_none_iff.2 h]
      exact ih

theorem exists_states_of_mem {ls : List Text} {s : Statement} (h : s ∈ statements ls) : ∃ line, States line s := by
  obtain ⟨line, -, hline⟩ := List.mem_filterMap.1 h
  exact ⟨line, lineStatement?_eq_some_iff.1 hline⟩

theorem statements_take_isPrefix (ls : List Text) {n m : Nat} (hnm : n ≤ m) :
    statements (ls.take n) <+: statements (ls.take m) := by
  obtain ⟨k, rfl⟩ := Nat.exists_eq_add_of_le hnm
  rw [List.take_add, statements, statements, List.filterMap_append]
  exact List.prefix_append _ _

end Header

namespace Scan

variable {d : Disk} {file : Path} {content : Bytes} {n : Nat}

theorem statements_of_read (hread : d.read file = .ok content) (hn : n ≤ maxWindow) :
    statements d file n = .ok (Header.statements (Header.window n content)) := by
  rw [statements, header_of_read hread hn, Except.map]

theorem statements_of_maxWindow_lt (hread : d.read file = .ok content) (hn : maxWindow < n) :
    statements d file n = .error .window := by
  rw [statements, header_of_maxWindow_lt hread hn, Except.map]

theorem statements_isPrefix {m : Nat} {ss ss' : List Header.Statement} (hread : d.read file = .ok content) (hnm : n ≤ m)
    (h : statements d file n = .ok ss) (h' : statements d file m = .ok ss') : ss <+: ss' := by
  by_cases hm : m ≤ maxWindow
  · rw [statements_of_read hread (hnm.trans hm)] at h
    rw [statements_of_read hread hm] at h'
    cases h
    cases h'
    exact Header.statements_take_isPrefix _ hnm
  · rw [statements_of_maxWindow_lt hread (Nat.lt_of_not_le hm)] at h'
    cases h'

/-- **The copyright statements of a file are exactly those of its first lines**, as long as the lines can be counted:
one for each line in which a statement begins, in their order.  None of them is empty, no year has more than four
digits, and each is a record that a listing accepts.  More lines only add statements behind the others. -/
theorem statements_exact (hread : d.read file = .ok content) (n : Nat) :
    (n ≤ maxWindow → ∃ ls ss, Text.Ruled (Utf8.decodeLossy content) ls ∧ statements d file n = .ok ss ∧
      (∀ ss', Header.Collects (ls.take n) ss' ↔ ss' = ss) ∧
      ∀ s ∈ ss, s.text ≠ [] ∧ (∀ y, s.year = some y → y ≤ 9999) ∧
        Document.Copyright.ofValue (copyrightOf s).toValue = .ok (copyrightOf s)) ∧
    (maxWindow < n → statements d file n = .error .window) ∧
    ∀ m ss ss', n ≤ m → statements d file n = .ok ss → statements d file m = .ok ss' → ss <+: ss' := by
  refine ⟨fun hn => ?_, statements_of_maxWindow_lt hread, fun m ss ss' hnm h h' => statements_isPrefix hread hnm h h'⟩
  refine ⟨_, _, Text.ruled_iff.2 rfl, statements_of_read hread hn, fun ss' => ?_, fun s hs => ?_⟩
  · rw [← Header.statements_eq_iff]
    exact eq_comm
  · obtain ⟨line, hline⟩ := Header.exists_states_of_mem hs
    exact ⟨hline.text_ne_nil, fun y hy => hline.year_le hy, Document.Copyright.ofValue_toValue _⟩

theorem statements_exact_of_three_lines :
    let file := Path.ofText "/a.c".toList
    let content := Utf8.encode
      "/* Copyrights, Copyright 12345 2024-2025 N */\r\r\nSPDX-FileCopyrightText: x2019y-->\n".toList
    let d : Disk := ⟨.folder [("a.c".toList, .file content)], []⟩
    let first : Header.Statement := ⟨"Copyright 12345 2024-2025 N".toList, some 2024⟩
    let second : Header.Statement := ⟨"SPDX-FileCopyrightText: x2019y".toList, some 2019⟩
    d.read file = .ok content ∧ statements d file 1 = .ok [first] ∧ statements d file 3 = .ok [first, second] ∧
      [first] <+: [first, second] := by
  intro file content d first second
  have hread : d.read file = .ok content := rfl
  have h1 : statements d file 1 = .ok [first] := by decide +kernel
  have h3 : statements d file 3 = .ok [first, second] := by decide +kernel
  exact ⟨hread, h1, h3, (statements_exact hread 1).2.2 3 _ _ (by decide) h1 h3⟩

/-- A file whose first line states a copyright has no answer when more lines are asked for than can be counted. -/
theorem statements_uncounted :
    let file := Path.ofText "/a.c".toList
    let content := Utf8.encode "Copyright 2024 N\n".toList
    let d : Disk := ⟨.folder [("a.c".toList, .file content)], []⟩
    let n := 9223372036854775808
    d.read file = .ok content ∧
      Header.Collects ((Text.lines (Utf8.decodeLossy content)).take n) [⟨"Copyright 2024 N".toList, some 2024⟩] ∧
      statements d file n = .error .window := by
  intro file content d n
  have hread : d.read file = .ok content := rfl
  exact ⟨hread, Header.statements_eq_iff.1 (by decide +kernel), statements_of_maxWindow_lt hread (by decide)⟩

end Scan
end Licensing
