import Licensing.Proofs.Text.Cuts
import Licensing.Proofs.Text.Literals
import Licensing.Registry.Source
/-!
# A registry's text is read back

A reader of modules that hold nothing but constants, line by line, and the constants it finds in the text of a
registry: whatever the identifiers hold, every one of them is read back at its place (`constants_source`).  An
identifier cannot end its literal, its line or its tuple, since its quoted text is a literal of printable characters.
-/
namespace Licensing
namespace Registry

/-! ## Reading constants -/

inductive Constant where
  | text (t : Text)
  | list (ts : List Text)
  | tuple (ts : List Text)
  deriving DecidableEq

/-- The brackets that items stand between. -/
inductive Bracket where
  | square
  | round
  deriving DecidableEq

namespace Bracket

def opening : Bracket → Text
  | .square => ['[']
  | .round => ['(']

def closing : Bracket → Text
  | .square => [']']
  | .round => [')']

def constant : Bracket → List Text → Constant
  | .square => .list
  | .round => .tuple

end Bracket

/-- Where the reader stands between two lines: among the definitions, in a text of several lines, or among the items of
a constant, with those that it has read. -/
inductive Place where
  | top
  | prose
  | items (name : Text) (bracket : Bracket) (read : List Text)
  deriving DecidableEq

structure Reading where
  place : Place
  constants : List (Text × Constant)
  deriving DecidableEq

/-- The three quotes around a text of several lines. -/
def fence : Text := ['"', '"', '"']

/-- A line of a text of several lines in which nothing is an escape or could end the text. -/
def isProse (line : Text) : Bool := !line.contains '"' && !line.contains '\\'

/-- A name of letters and low lines.  No keyword of the language holds a low line. -/
def isName (t : Text) : Bool := t.contains '_' && t.all fun c => c.isAlpha || c = '_'

/-- The type that may be given behind a name. -/
def typed : Text := ": tuple[str, ...]".toList

/-- The name that a line defines, and what stands behind the sign. -/
def defined? (line : Text) : Option (Text × Text) :=
  (Text.cut? [' ', '=', ' '] line).bind fun (target, value) =>
    let name := (Text.before? typed target).getD target
    if isName name then some (name, value) else none

/-- A definition is a text or opens a bracket. -/
def Reading.define (r : Reading) (name value : Text) : Option Reading :=
  if value = Bracket.square.opening then some { r with place := .items name .square [] }
  else if value = Bracket.round.opening then some { r with place := .items name .round [] }
  else match Text.literal? value with
    | some (t, []) => some { r with constants := r.constants ++ [(name, .text t)] }
    | _ => none

/-- One line of the reader.  A line that it does not know is refused, so that nothing is passed over. -/
def Reading.step (r : Reading) (line : Text) : Option Reading :=
  match r.place with
  | .top =>
    match defined? line with
    | some (name, value) => r.define name value
    | none =>
      if line.isEmpty || Text.startsWith line ['#'] || line = "from __future__ import annotations".toList then some r
      else (Text.after? fence line).bind fun rest => if isProse rest then some { r with place := .prose } else none
  | .prose =>
    if line = fence then some { r with place := .top } else if isProse line then some r else none
  | .items name bracket read =>
    let rest := line.dropWhile (· = ' ')
    if rest = bracket.closing then some ⟨.top, r.constants ++ [(name, bracket.constant read)]⟩
    else match Text.literal? rest with
      | some (t, [',']) => some { r with place := .items name bracket (read ++ [t]) }
      | _ => none

/-- The constants that a module defines, in its order.  Every bracket and every text has to be closed. -/
def constants? (source : Text) : Option (List (Text × Constant)) :=
  ((Text.lines source).foldlM Reading.step ⟨.top, []⟩).bind fun r =>
    if r.place = .top then some r.constants else none

/-! ## What each line does -/

theorem quoted_append_ne (t s : Text) (c : Char) : Text.quoted t ++ s ≠ [c] := by
  intro h
  have hlength := congrArg List.length h
  simp only [Text.quoted, List.length_append, List.length_cons, List.length_nil] at hlength
  omega

/-- The lines in front of the version define the names that the module hands out. -/
theorem foldlM_opening : (opening.map String.toList).foldlM Reading.step ⟨.top, []⟩ = some ⟨.top,
    [("__all__".toList, .list ["EXCEPTION_IDS".toList, "LICENSE_IDS".toList, "REGISTRY_VERSION".toList])]⟩ := by
  simp only [opening, List.map_cons, List.map_nil]
  -- Lists of characters; the kernel would decode every string from its bytes.
  repeat rw [String.toList_ofList]
  decide +kernel

theorem step_blank (cs : List (Text × Constant)) : Reading.step ⟨.top, cs⟩ [] = some ⟨.top, cs⟩ := rfl

theorem not_mem_of_isName {name : Text} (h : isName name = true) {c : Char} (hc : c.isAlpha = false) (hl : c ≠ '_') :
    c ∉ name := by
  intro hm
  simp only [isName, Bool.and_eq_true, List.all_eq_true] at h
  have hmem := h.2 c hm
  simp [hc, hl] at hmem

theorem defined?_plain {name : Text} (h : isName name = true) (value : Text) :
    defined? (name ++ [' ', '=', ' '] ++ value) = some (name, value) := by
  have hspace : ' ' ∉ name := not_mem_of_isName h (by decide) (by decide)
  have hcolon : ':' ∉ name := not_mem_of_isName h (by decide) (by decide)
  have hcut : Text.cut? [' ', '=', ' '] ([' ', '=', ' '] ++ value) = some ([], value) := rfl
  have huntyped : Text.before? typed name = none := by
    rw [Option.eq_none_iff_forall_ne_some]
    intro r hr
    rw [Text.before?_eq_some_iff.1 hr] at hcolon
    exact hcolon (List.mem_append_right r (by decide +kernel))
  rw [defined?, List.append_assoc, Text.cut?_append hspace, hcut]
  simp only [Option.map_some, Option.bind_some, List.append_nil, huntyped, Option.getD_none, h, if_true]

theorem defined?_tuple {name : Text} (h : isName name = true) :
    defined? (name ++ ": tuple[str, ...] = (".toList) = some (name, Bracket.round.opening) := by
  have hspace : ' ' ∉ name := not_mem_of_isName h (by decide) (by decide)
  have hcut : Text.cut? [' ', '=', ' '] ": tuple[str, ...] = (".toList =
      some (typed, Bracket.round.opening) := by decide +kernel
  have htyped : Text.before? typed (name ++ typed) = some name := Text.before?_eq_some_iff.2 rfl
  rw [defined?, Text.cut?_append hspace, hcut]
  simp only [Option.map_some, Option.bind_some, htyped, Option.getD_some, h, if_true]

/-- A name may be given any text. -/
theorem step_text {name : Text} (h : isName name = true) (t : Text) (cs : List (Text × Constant)) :
    Reading.step ⟨.top, cs⟩ (name ++ [' ', '=', ' '] ++ Text.quoted t) = some ⟨.top, cs ++ [(name, .text t)]⟩ := by
  have hne (c : Char) : Text.quoted t ≠ [c] := by simpa using quoted_append_ne t [] c
  have hsquare : Text.quoted t ≠ Bracket.square.opening := hne _
  have hround : Text.quoted t ≠ Bracket.round.opening := hne _
  have hliteral : Text.literal? (Text.quoted t) = some (t, []) := by
    simpa using @Text.literal?_quoted t [] (by simp)
  simp only [Reading.step, defined?_plain h, Reading.define, hsquare, hround, if_false, hliteral]

/-- **An entry's line adds just that entry**, whatever the entry holds. -/
theorem step_entryLine (name t : Text) (read : List Text) (cs : List (Text × Constant)) :
    Reading.step ⟨.items name .round read, cs⟩ (entryLine (.text t)) =
      some ⟨.items name .round (read ++ [t]), cs⟩ := by
  have hmark := Text.quoteMark_eq t
  have hspaces : (entryLine (.text t)).dropWhile (· = ' ') = Text.quoted t ++ [','] := by
    have hne : Text.quoteMark t ≠ ' ' := by rcases hmark with h | h <;> rw [h] <;> decide
    simp [entryLine, Value.shown, Text.spaces, Text.quoted, List.replicate, hne]
  have hclosing : Text.quoted t ++ [','] ≠ Bracket.round.closing := quoted_append_ne t [','] ')'
  have hliteral : Text.literal? (Text.quoted t ++ [',']) = some (t, [',']) := by
    refine Text.literal?_quoted t ?_
    rcases hmark with h | h <;> rw [h] <;> simp
  simp only [Reading.step, hspaces, hclosing, if_false, hliteral]

/-- The run over the entries, by induction with the entries that have been read. -/
theorem foldlM_entryLines (name : Text) (cs : List (Text × Constant)) : ∀ ids read : List Text,
    (ids.map fun t => entryLine (.text t)).foldlM Reading.step ⟨.items name .round read, cs⟩ =
      some ⟨.items name .round (read ++ ids), cs⟩
  | [], read => by rw [List.append_nil]; rfl
  | t :: ids, read => by
    rw [List.map_cons, List.foldlM_cons, step_entryLine]
    show List.foldlM Reading.step _ _ = _
    rw [foldlM_entryLines name cs ids, List.append_assoc, List.singleton_append]

/-- **A tuple's lines define the tuple**, with the entries in their order. -/
theorem foldlM_tupleLines {name : String} (h : isName name.toList = true) (ids : List Text)
    (cs : List (Text × Constant)) :
    (tupleLines name (ids.map .text)).foldlM Reading.step ⟨.top, cs⟩ =
      some ⟨.top, cs ++ [(name.toList, .tuple ids)]⟩ := by
  have hopens : Reading.step ⟨.top, cs⟩ (name.toList ++ ": tuple[str, ...] = (".toList) =
      some ⟨.items name.toList .round [], cs⟩ := by
    simp only [Reading.step, defined?_tuple h]
    rfl
  have hcloses : [[')']].foldlM Reading.step ⟨.items name.toList .round ids, cs⟩ =
      some ⟨.top, cs ++ [(name.toList, .tuple ids)]⟩ := rfl
  rw [tupleLines, List.cons_append, List.foldlM_cons, hopens, List.map_map]
  show List.foldlM Reading.step _ ((ids.map fun t => entryLine (.text t)) ++ [[')']]) = _
  rw [List.foldlM_append, foldlM_entryLines, List.nil_append]
  exact hcloses

/-! ## The whole text -/

/-- A tuple's lines, with each entry between four spaces and a comma. -/
theorem tupleLines_eq {name : String} {opens : Text} (hopens : name.toList ++ ": tuple[str, ...] = (".toList = opens)
    (ids : List Text) : tupleLines name (ids.map .text) =
      opens :: ids.map (fun t => Text.spaces 4 ++ Text.quoted t ++ [',']) ++ [[')']] := by
  have hentries : (ids.map Value.text).map entryLine = ids.map fun t => Text.spaces 4 ++ Text.quoted t ++ [','] := by
    rw [List.map_map]
    exact List.map_congr_left fun t _ => rfl
  rw [tupleLines, hopens, hentries]

theorem printable_opening : ∀ l ∈ opening.map String.toList, Text.Printable l := by
  simp only [opening, List.map_cons, List.map_nil]
  repeat rw [String.toList_ofList]
  decide +kernel

theorem printable_entryLine (t : Text) : Text.Printable (entryLine (.text t)) :=
  Text.printable_append.2 ⟨Text.printable_append.2 ⟨by decide +kernel, Text.printable_quoted t⟩, by decide +kernel⟩

theorem printable_tupleLines {name : String} (hname : Text.Printable name.toList) (ids : List Text) :
    ∀ l ∈ tupleLines name (ids.map .text), Text.Printable l := by
  have hopens : Text.Printable (name.toList ++ ": tuple[str, ...] = (".toList) :=
    Text.printable_append.2 ⟨hname, by decide +kernel⟩
  intro l hl
  simp only [tupleLines, List.map_map, List.cons_append, List.mem_cons, List.mem_append, List.mem_map,
    Function.comp_apply, List.not_mem_nil, or_false] at hl
  rcases hl with rfl | ⟨t, _, rfl⟩ | rfl
  · exact hopens
  · exact printable_entryLine t
  · decide +kernel

theorem printable_sourceLines (tag : Text) (licenses exceptions : List Text) :
    ∀ l ∈ sourceLines tag (licenses.map .text) (exceptions.map .text), Text.Printable l := by
  have hversion : Text.Printable ("REGISTRY_VERSION = ".toList ++ Text.quoted (untagged tag)) :=
    Text.printable_append.2 ⟨by decide +kernel, Text.printable_quoted _⟩
  intro l hl
  simp only [sourceLines, List.mem_append, List.mem_cons] at hl
  rcases hl with (hl | rfl | rfl | hl) | rfl | hl
  · exact printable_opening l hl
  · exact hversion
  · decide +kernel
  · exact printable_tupleLines (by decide +kernel) licenses l hl
  · decide +kernel
  · exact printable_tupleLines (by decide +kernel) exceptions l hl

theorem lines_source (tag : Text) (licenses exceptions : List Text) :
    Text.lines (source tag (licenses.map .text) (exceptions.map .text)) =
      sourceLines tag (licenses.map .text) (exceptions.map .text) :=
  Text.lines_flatMap (printable_sourceLines tag licenses exceptions)

theorem constants?_source (tag : Text) (licenses exceptions : List Text) :
    constants? (source tag (licenses.map .text) (exceptions.map .text)) = some [
      ("__all__".toList, .list ["EXCEPTION_IDS".toList, "LICENSE_IDS".toList, "REGISTRY_VERSION".toList]),
      ("REGISTRY_VERSION".toList, .text (untagged tag)),
      ("LICENSE_IDS".toList, .tuple licenses),
      ("EXCEPTION_IDS".toList, .tuple exceptions)] := by
  have hversion : "REGISTRY_VERSION = ".toList = "REGISTRY_VERSION".toList ++ [' ', '=', ' '] := by decide +kernel
  rw [constants?, lines_source, sourceLines, hversion, List.foldlM_append, List.foldlM_append, foldlM_opening]
  simp only [bind, Option.bind_some, List.foldlM_cons]
  rw [step_text (by decide +kernel)]
  simp only [Option.bind_some, step_blank]
  rw [foldlM_tupleLines (by decide +kernel)]
  simp only [Option.bind_some, step_blank]
  rw [foldlM_tupleLines (by decide +kernel)]
  rfl

theorem untagged_eq (tag : Text) : untagged tag = if tag.head? = some 'v' then tag.tail else tag := by
  cases tag with
  | nil => rfl
  | cons c t =>
    by_cases hc : c = 'v'
    · simp [untagged, Text.after?, hc]
    · simp [untagged, Text.after?, hc, Ne.symm hc]

/-- **The text of a registry reads back as what it was made from**, whatever the version and the identifiers hold: each
identifier has exactly one line, no character in any line is an end of a line, and a reader of the whole text finds the
names that the module hands out, the version without one v in front of it, and the two tuples in their order and with
their repetitions, and nothing else. -/
theorem constants_source (tag : Text) (licenses exceptions : List Text) :
    let text := source tag (licenses.map .text) (exceptions.map .text)
    let version := if tag.head? = some 'v' then tag.tail else tag
    let entry := fun t => Text.spaces 4 ++ Text.quoted t ++ [',']
    Text.lines text =
      opening.map String.toList ++
        ["REGISTRY_VERSION = ".toList ++ Text.quoted version, [], "LICENSE_IDS: tuple[str, ...] = (".toList] ++
        licenses.map entry ++ [[')'], [], "EXCEPTION_IDS: tuple[str, ...] = (".toList] ++
        exceptions.map entry ++ [[')']] ∧
    (∀ l ∈ Text.lines text, Text.Printable l) ∧
    constants? text = some [
      ("__all__".toList, .list ["EXCEPTION_IDS".toList, "LICENSE_IDS".toList, "REGISTRY_VERSION".toList]),
      ("REGISTRY_VERSION".toList, .text version),
      ("LICENSE_IDS".toList, .tuple licenses),
      ("EXCEPTION_IDS".toList, .tuple exceptions)] := by
  intro text version entry
  have hversion : untagged tag = version := untagged_eq tag
  have hlines := lines_source tag licenses exceptions
  refine ⟨?_, fun l hl => printable_sourceLines tag licenses exceptions l (hlines ▸ hl), ?_⟩
  · have hlicenses : tupleLines "LICENSE_IDS" (licenses.map .text) =
        "LICENSE_IDS: tuple[str, ...] = (".toList :: licenses.map entry ++ [[')']] :=
      tupleLines_eq (by decide +kernel) licenses
    have hexceptions : tupleLines "EXCEPTION_IDS" (exceptions.map .text) =
        "EXCEPTION_IDS: tuple[str, ...] = (".toList :: exceptions.map entry ++ [[')']] :=
      tupleLines_eq (by decide +kernel) exceptions
    rw [hlines, sourceLines, hversion, hlicenses, hexceptions]
    simp only [List.append_assoc, List.cons_append, List.nil_append]
  · rw [constants?_source, hversion]

end Registry
end Licensing
