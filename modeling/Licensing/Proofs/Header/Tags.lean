import Licensing.Proofs.Header.Cleaning
import Licensing.Proofs.Scan.Evidence
import Licensing.Proofs.Text.Leftmost
import Licensing.Proofs.Text.LineEnds
/-!
# The tag of a header

A header has the first value that is not empty among the tags of its lines (`tag?_eq_some_iff`).  More lines do not
change a tag that is found, and neither does another way to end the lines (`tag?_exact`).
-/
namespace Licensing
namespace Header

/-- The value of a line: the rest behind its first tag, cleaned. -/
def Names (line v : Text) : Prop :=
  ∃ a r, Text.Leftmost (tagWord <+: ·) line a (tagWord ++ r) ∧ Cleaned (Text.trimStart r) v

/-- The value of the first line that has one which is not empty. -/
def FirstTag (ls : List Text) (v : Text) : Prop :=
  v ≠ [] ∧ ∃ before line after, ls = before ++ line :: after ∧ Names line v ∧ ∀ l ∈ before, ∀ w, Names l w → w = []

theorem lineTag?_eq_some_iff {line v : Text} : lineTag? line = some v ↔ Names line v := by
  rw [lineTag?, Option.map_eq_some_iff]
  constructor
  · rintro ⟨⟨a, r⟩, hcut, hclean⟩
    exact ⟨a, r, Text.cut?_eq_some_iff.1 hcut, clean_eq_iff.1 hclean⟩
  · rintro ⟨a, r, hleft, hclean⟩
    exact ⟨(a, r), Text.cut?_eq_some_iff.2 hleft, clean_eq_iff.2 hclean⟩

theorem Names.unique {line v w : Text} (hv : Names line v) (hw : Names line w) : v = w :=
  Option.some.inj ((lineTag?_eq_some_iff.2 hv).symm.trans (lineTag?_eq_some_iff.2 hw))

section

variable {line v w : Text} {ls : List Text}

theorem tag?_cons_of_names (h : Names line w) (hne : w ≠ []) : tag? (line :: ls) = some w := by
  rw [tag?, List.filterMap_cons, lineTag?_eq_some_iff.2 h]
  simp [hne]

/-- A line without a value is passed over. -/
theorem tag?_cons_of_empty (h : ∀ w, Names line w → w = []) : tag? (line :: ls) = tag? ls := by
  rw [tag?, List.filterMap_cons]
  cases hline : lineTag? line with
  | none => rfl
  | some w =>
    obtain rfl := h w (lineTag?_eq_some_iff.1 hline)
    rfl

theorem not_firstTag_nil : ¬ FirstTag [] v := by
  rintro ⟨-, before, line, after, hls, -⟩
  exact absurd hls (by simp)

theorem firstTag_cons_of_names (h : Names line w) (hne : w ≠ []) : FirstTag (line :: ls) v ↔ v = w := by
  constructor
  · rintro ⟨-, before, l, after, hls, hl, hbefore⟩
    cases before with
    | nil =>
      obtain ⟨rfl, -⟩ := List.cons.inj hls
      exact hl.unique h
    | cons b before =>
      obtain ⟨rfl, -⟩ := List.cons.inj hls
      exact absurd (hbefore line List.mem_cons_self w h) hne
  · rintro rfl
    exact ⟨hne, [], line, ls, rfl, h, List.forall_mem_nil _⟩

theorem firstTag_cons_of_empty (h : ∀ w, Names line w → w = []) : FirstTag (line :: ls) v ↔ FirstTag ls v := by
  constructor
  · rintro ⟨hne, before, l, after, hls, hl, hbefore⟩
    cases before with
    | nil =>
      obtain ⟨rfl, -⟩ := List.cons.inj hls
      exact absurd (h v hl) hne
    | cons b before =>
      obtain ⟨-, hls⟩ := List.cons.inj hls
      exact ⟨hne, before, l, after, hls, hl, fun l' hl' => hbefore l' (List.mem_cons_of_mem b hl')⟩
  · rintro ⟨hne, before, l, after, rfl, hl, hbefore⟩
    exact ⟨hne, line :: before, l, after, rfl, hl, List.forall_mem_cons.2 ⟨h, hbefore⟩⟩

/-- **The tag of some lines is the first value that is not empty.** -/
theorem tag?_eq_some_iff : tag? ls = some v ↔ FirstTag ls v := by
  induction ls with
  | nil => exact iff_of_false (Option.some_ne_none v).symm not_firstTag_nil
  | cons line ls ih =>
    by_cases h : ∃ w, Names line w ∧ w ≠ []
    · obtain ⟨w, hw, hne⟩ := h
      rw [tag?_cons_of_names hw hne, firstTag_cons_of_names hw hne, Option.some.injEq, eq_comm]
    · have hempty : ∀ w, Names line w → w = [] := fun w hw => Decidable.not_not.1 fun hne => h ⟨w, hw, hne⟩
      rw [tag?_cons_of_empty hempty, firstTag_cons_of_empty hempty, ih]

theorem tag?_eq_none_iff_firstTag : tag? ls = none ↔ ∀ v, ¬ FirstTag ls v := by
  rw [Option.eq_none_iff_forall_ne_some]
  simp only [Ne, tag?_eq_some_iff]

end

/-- More lines behind a tag have no influence on it. -/
theorem FirstTag.append {ls : List Text} {v : Text} (h : FirstTag ls v) (ls' : List Text) : FirstTag (ls ++ ls') v := by
  obtain ⟨hne, before, line, after, rfl, hline, hbefore⟩ := h
  exact ⟨hne, before, line, after ++ ls', by rw [List.append_assoc, List.cons_append], hline, hbefore⟩

theorem FirstTag.of_take {ls : List Text} {v : Text} {n m : Nat} (h : FirstTag (ls.take n) v) (hnm : n ≤ m) :
    FirstTag (ls.take m) v := by
  obtain ⟨k, rfl⟩ := Nat.exists_eq_add_of_le hnm
  rw [List.take_add]
  exact h.append _

end Header

namespace Scan

open Header (FirstTag)

variable {d : Disk} {file : Path} {content : Bytes} {n : Nat}

theorem header_of_read (hread : d.read file = .ok content) (hn : n ≤ maxWindow) :
    header d file n = .ok (Header.window n content) :=
  header_eq_ok_iff.2 ⟨content, hread, hn, rfl⟩

theorem header_of_maxWindow_lt (hread : d.read file = .ok content) (hn : maxWindow < n) :
    header d file n = .error .window := by
  rw [header, hread]
  exact if_pos hn

theorem tag?_of_read (hread : d.read file = .ok content) (hn : n ≤ maxWindow) :
    tag? d file n = .ok (Header.tag? (Header.window n content)) := by
  rw [tag?, header_of_read hread hn, Except.map]

theorem tag?_eq_some_iff (hread : d.read file = .ok content) (hn : n ≤ maxWindow) {v : Text} :
    tag? d file n = .ok (some v) ↔ FirstTag (Header.window n content) v := by
  rw [tag?_of_read hread hn, Except.ok.injEq, Header.tag?_eq_some_iff]

theorem tag?_eq_none_iff_firstTag (hread : d.read file = .ok content) (hn : n ≤ maxWindow) :
    tag? d file n = .ok none ↔ ∀ v, ¬ FirstTag (Header.window n content) v := by
  rw [tag?_of_read hread hn, Except.ok.injEq, Header.tag?_eq_none_iff_firstTag]

theorem tag?_of_le {m : Nat} {v : Text} (hread : d.read file = .ok content) (hnm : n ≤ m) (hm : m ≤ maxWindow)
    (h : tag? d file n = .ok (some v)) : tag? d file m = .ok (some v) :=
  (tag?_eq_some_iff hread hm).2 (((tag?_eq_some_iff hread (hnm.trans hm)).1 h).of_take hnm)

/-- How the lines of a file end does not show. -/
theorem header_withEnds {d' : Disk} {e : LineEnd} (hread : d.read file = .ok content)
    (hread' : d'.read file = .ok (withEnds 10 13 e content)) (n : Nat) : header d' file n = header d file n := by
  simp only [header, hread, hread', Header.window, Utf8.lines_decodeLossy_withEnds]

/-- **The tag of a file is the first tag that is not empty among its first lines**, as long as the lines can be counted:
the cleaned rest behind the first tag of the first line where that is not empty.  Cleaning comes to an end on every
text, with the one beginning that stands before the trailer, and has no effect on a cleaned text.  A tag is found
unchanged among more lines, and whatever the lines end in. -/
theorem tag?_exact (hread : d.read file = .ok content) (n : Nat) :
    (n ≤ maxWindow → ∃ ls, Text.Ruled (Utf8.decodeLossy content) ls ∧
      (∀ v, tag? d file n = .ok (some v) ↔ FirstTag (ls.take n) v) ∧
      (tag? d file n = .ok none ↔ ∀ v, ¬ FirstTag (ls.take n) v)) ∧
    (maxWindow < n → tag? d file n = .error .window) ∧
    (∀ t r, (Header.Settles (Text.trim t) r ↔ Header.clean t = r) ∧
      (Header.clean t = r ↔ Header.Cleaned (Text.trimStart t) r)) ∧
    (∀ t, Header.clean (Header.clean t) = Header.clean t) ∧
    (∀ m v, n ≤ m → m ≤ maxWindow → tag? d file n = .ok (some v) → tag? d file m = .ok (some v)) ∧
    ∀ e d', d'.read file = .ok (withEnds 10 13 e content) → tag? d' file n = tag? d file n := by
  refine ⟨fun hn => ?_, fun hn => ?_, fun t r => ⟨Header.settles_iff, Header.clean_eq_iff⟩, Header.clean_clean,
    fun m v hnm hm h => tag?_of_le hread hnm hm h, fun e d' hread' => ?_⟩
  · exact ⟨_, Text.ruled_iff.2 rfl, fun v => tag?_eq_some_iff hread hn, tag?_eq_none_iff_firstTag hread hn⟩
  · rw [tag?, header_of_maxWindow_lt hread hn, Except.map]
  · rw [tag?, header_withEnds hread hread', ← tag?]

theorem tag?_exact_behind_empty_tag :
    let file := Path.ofText "/a.c".toList
    let content := Utf8.encode
      "/* SPDX-License-Identifier: -->*/\r# SPDX-License-Identifier:MIT --> */*/\r\nint x;".toList
    let disk : Bytes → Disk := fun bs => ⟨.folder [("a.c".toList, .file bs)], []⟩
    (disk content).read file = .ok content ∧ tag? (disk content) file 1 = .ok none ∧
      tag? (disk content) file 2 = .ok (some "MIT".toList) ∧ tag? (disk content) file 30 = .ok (some "MIT".toList) ∧
      tag? (disk (withEnds 10 13 .crlf content)) file 2 = .ok (some "MIT".toList) := by
  intro file content disk
  have hread (bs : Bytes) : (disk bs).read file = .ok bs := rfl
  obtain ⟨-, -, -, -, hmore, hends⟩ := tag?_exact (hread content) 2
  have htag : tag? (disk content) file 2 = .ok (some "MIT".toList) := by decide +kernel
  exact ⟨hread content, by decide +kernel, htag, hmore 30 _ (by decide) (by decide) htag,
    (hends .crlf _ (hread _)).trans htag⟩

/-- A file whose first line has a tag has no answer when more lines are asked for than can be counted. -/
theorem tag?_uncounted :
    let file := Path.ofText "/a.c".toList
    let content := Utf8.encode "SPDX-License-Identifier: MIT\n".toList
    let d : Disk := ⟨.folder [("a.c".toList, .file content)], []⟩
    let n := 9223372036854775808
    d.read file = .ok content ∧ FirstTag ((Text.lines (Utf8.decodeLossy content)).take n) "MIT".toList ∧
      tag? d file n = .error .window := by
  intro file content d n
  have hread : d.read file = .ok content := rfl
  refine ⟨hread, ?_, ?_⟩
  · exact Header.tag?_eq_some_iff.1 (by decide +kernel)
  · rw [tag?, header_of_maxWindow_lt hread (by decide), Except.map]

end Scan
end Licensing
