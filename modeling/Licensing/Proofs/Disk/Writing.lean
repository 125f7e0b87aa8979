import Licensing.Disk
/-!
# Writing a file

What a path leads to is decided by the kinds of the trees on its way (`walk_ok_iff`): folders all along, and then what
stands at the place that is left when every two dots have taken back a name.  Writing a file changes the kind of one
place (`kindAt_graft_self`, `kindAt_graft_of_ne`), so every path to another place leads where it led
(`Disk.written_of_write`).
-/
namespace Licensing

namespace Tree

/-- A tree without what is in a folder. -/
inductive Kind
  | folder
  | file (content : Bytes)
  deriving DecidableEq, Repr

def kind : Tree → Kind
  | .folder _ => .folder
  | .file content => .file content

/-- What stands at the end of some names. -/
def kindAt : List Text → Tree → Option Kind
  | [], t => some t.kind
  | k :: ks, t => (t.entries.lookup k).bind (kindAt ks)

theorem kindAt_file {content : Bytes} {ks : List Text} (h : ks ≠ []) : kindAt ks (.file content) = none := by
  cases ks with
  | nil => exact absurd rfl h
  | cons k ks => rfl

/-- What lies behind some names lies in a folder. -/
theorem kindAt_of_append {k : Text} {rest : List Text} {κ : Kind} : ∀ {ks : List Text} {t : Tree},
    kindAt (ks ++ k :: rest) t = some κ → kindAt ks t = some .folder
  | [], .folder _, _ => rfl
  | [], .file _, h => nomatch h
  | n :: ks, t, h => by
    obtain ⟨u, hu, hrest⟩ := Option.bind_eq_some_iff.1 h
    exact Option.bind_eq_some_iff.2 ⟨u, hu, kindAt_of_append hrest⟩

theorem kindAt_folder_of_append {ks rest : List Text} {t : Tree} (h : kindAt (ks ++ rest) t = some .folder) :
    kindAt ks t = some .folder := by
  cases rest with
  | nil => rwa [List.append_nil] at h
  | cons k rest => exact kindAt_of_append h

/-! ## Putting a file into a tree -/

variable {content : Bytes} {es : List (Text × Tree)}

theorem lookup_entry_cons (n m : Text) (u : Tree) (es : List (Text × Tree)) :
    ((m, u) :: es).lookup n = if n = m then some u else es.lookup n := by
  rw [List.lookup_cons]
  by_cases h : n = m
  · rw [if_pos h, beq_iff_eq.2 h]
  · rw [if_neg h, beq_eq_false_iff_ne.2 h]

theorem lookup_setEntry (k n : Text) (t : Tree) :
    ∀ es : List (Text × Tree), (setEntry k t es).lookup n = if n = k then some t else es.lookup n
  | [] => lookup_entry_cons n k t []
  | (m, u) :: es => by
    rw [setEntry]
    by_cases hm : m = k
    · rw [if_pos hm, lookup_entry_cons, lookup_entry_cons, hm]
      split <;> rfl
    · rw [if_neg hm, lookup_entry_cons, lookup_entry_cons, lookup_setEntry k n t es]
      by_cases hn : n = k
      · rw [if_pos hn, if_pos hn, if_neg fun heq => hm (heq.symm.trans hn)]
      · rw [if_neg hn, if_neg hn]

theorem kindAt_graft_self : ∀ (ks : List Text) (t : Tree), kindAt ks (graft (.file content) ks t) = some (.file content)
  | [], _ => rfl
  | k :: ks, t => by
    rw [graft, kindAt, entries, lookup_setEntry, if_pos rfl]
    exact kindAt_graft_self ks _

/-- All names but the last lead to folders, and all of them to none. -/
structure Admits (t : Tree) (ks : List Text) : Prop where
  folders : ∀ qs rest, qs ++ rest = ks → rest ≠ [] → kindAt qs t = some .folder
  place : kindAt ks t ≠ some .folder

theorem admits_of_file {t : Tree} {ks : List Text} (h : kindAt ks t = some (.file content)) : Admits t ks where
  folders qs rest hqs hrest := by
    obtain ⟨k, rest, rfl⟩ := List.exists_cons_of_ne_nil hrest
    exact kindAt_of_append (hqs ▸ h)
  place := by simp [h]

theorem admits_concat {t : Tree} {ks : List Text} {k : Text} (hks : kindAt ks t = some .folder)
    (hk : kindAt (ks ++ [k]) t = none) : Admits t (ks ++ [k]) where
  folders qs rest hqs hrest := by
    rw [← List.dropLast_concat_getLast hrest, ← List.append_assoc] at hqs
    exact kindAt_folder_of_append (List.append_inj_left' hqs rfl ▸ hks)
  place := by simp [hk]

theorem Admits.tail {k : Text} {ks : List Text} {u : Tree} (h : Admits (.folder es) (k :: ks))
    (hu : es.lookup k = some u) : Admits u ks where
  folders qs rest hqs hrest := by
    have hfolder := h.folders (k :: qs) rest (congrArg (k :: ·) hqs) hrest
    rwa [kindAt, entries, hu] at hfolder
  place hplace := h.place (by rw [kindAt, entries, hu]; exact hplace)

/-- Where a name leads nowhere, no other may follow it. -/
theorem Admits.eq_nil {k : Text} {ks : List Text} (h : Admits (.folder es) (k :: ks)) (hk : es.lookup k = none) :
    ks = [] := by
  refine Decidable.not_not.1 fun hne => ?_
  have hfolder := h.folders [k] ks rfl hne
  rw [kindAt, entries, hk] at hfolder
  cases hfolder

/-- **Every other place keeps its kind.** -/
theorem kindAt_graft_of_ne : ∀ {ks qs : List Text} {t : Tree}, Admits t ks → qs ≠ ks →
    kindAt qs (graft (.file content) ks t) = kindAt qs t
  | [], qs, .folder _, h, _ => absurd rfl h.place
  | [], qs, .file _, _, hne => (kindAt_file hne).trans (kindAt_file hne).symm
  | _ :: _, _, .file _, h, _ => nomatch h.folders [] _ rfl (List.cons_ne_nil _ _)
  | _ :: _, [], .folder _, _, _ => rfl
  | k :: ks, q :: qs, .folder es, h, hne => by
    rw [graft, kindAt, kindAt, entries, entries, lookup_setEntry]
    by_cases hq : q = k
    · subst hq
      have hqs : qs ≠ ks := fun heq => hne (congrArg (q :: ·) heq)
      rw [if_pos rfl]
      cases hu : es.lookup q with
      | some u => exact kindAt_graft_of_ne (h.tail hu) hqs
      | none =>
        obtain rfl := h.eq_nil hu
        exact kindAt_file hqs
    · rw [if_neg hq]

theorem kindAt_graft_eq_folder_iff {ks qs : List Text} {t : Tree} (h : Admits t ks) :
    kindAt qs (graft (.file content) ks t) = some .folder ↔ kindAt qs t = some .folder := by
  by_cases hqs : qs = ks
  · subst hqs
    exact iff_of_false (by simp [kindAt_graft_self]) h.place
  · rw [kindAt_graft_of_ne h hqs]

end Tree

namespace Disk

open Licensing.Tree (Kind kindAt)

/-! ## Following components -/

/-- The names and the folders from the root to a tree, the nearest first. -/
inductive Trail (root : Tree) : List Text → List Tree → Tree → Prop
  | here : Trail root [] [] root
  | into {names : List Text} {above : List Tree} {es : List (Text × Tree)} {k : Text} {t : Tree} :
      Trail root names above (.folder es) → es.lookup k = some t → Trail root (k :: names) (.folder es :: above) t

variable {root here : Tree} {names : List Text} {above : List Tree} {κ : Kind}

theorem Trail.kindAt_append (h : Trail root names above here) (ks : List Text) :
    kindAt (names.reverse ++ ks) root = kindAt ks here := by
  induction h generalizing ks with
  | here => rfl
  | @into names above es k t _ hk ih =>
    rw [List.reverse_cons, List.append_assoc, List.singleton_append, ih, kindAt, Tree.entries, hk]
    rfl

theorem Trail.kindAt_eq (h : Trail root names above here) : kindAt names.reverse root = some here.kind := by
  have := h.kindAt_append []
  rwa [List.append_nil] at this

/-- Components are followed from folders only; `names` lead to the first of them, the nearest first. -/
def Passable (root : Tree) : List Text → List Text → Prop
  | _, [] => True
  | names, p :: ps =>
    kindAt names.reverse root = some .folder ∧ Passable root (if p = Path.up then names.drop 1 else p :: names) ps

theorem collapse_cons (names : List Text) (p : Text) (ps : List Text) :
    Path.collapse names (p :: ps) = Path.collapse (if p = Path.up then names.drop 1 else p :: names) ps := by
  rw [Path.collapse]
  split <;> rfl

/-- From where there is nothing, no component can be followed, and nothing is found. -/
theorem not_found (h : kindAt names.reverse root = none) (ps : List Text) :
    ¬ (Passable root names ps ∧ kindAt (Path.collapse names ps) root = some κ) := by
  rintro ⟨hpass, hfound⟩
  cases ps with
  | nil =>
    rw [Path.collapse, h] at hfound
    cases hfound
  | cons p ps =>
    rw [Passable, h] at hpass
    cases hpass.1

/-- **Following components finds what stands at the collapsed place**, if the way there is through folders. -/
theorem walk_ok_iff : ∀ {ps names : List Text} {above : List Tree} {root here : Tree}, Trail root names above here →
    ((∃ t, walk above here ps = .ok t ∧ t.kind = κ) ↔
      Passable root names ps ∧ kindAt (Path.collapse names ps) root = some κ)
  | [], names, above, root, here, h => by
    simp [walk, Passable, Path.collapse, h.kindAt_eq]
  | p :: ps, names, above, root, .file content, h => by
    simp [walk, Passable, h.kindAt_eq, Tree.kind]
  | p :: ps, names, above, root, .folder es, h => by
    have hfolder : kindAt names.reverse root = some .folder := h.kindAt_eq
    rw [Passable, collapse_cons, and_assoc, and_iff_right hfolder]
    unfold walk
    by_cases hp : p = Path.up
    · simp only [if_pos hp]
      cases h with
      | here => exact walk_ok_iff .here
      | into hparent _ => exact walk_ok_iff hparent
    · simp only [if_neg hp]
      cases hk : es.lookup p with
      | some t => exact walk_ok_iff (h.into hk)
      | none =>
        have hnone : kindAt (p :: names).reverse root = none := by
          rw [List.reverse_cons, h.kindAt_append, kindAt, Tree.entries, hk]
          rfl
        refine iff_of_false ?_ (not_found hnone ps)
        rintro ⟨t, ht, -⟩
        cases ht

theorem passable_concat {p : Text} : ∀ {ps names : List Text},
    Passable root names (ps ++ [p]) ↔ Passable root names ps ∧ kindAt (Path.collapse names ps) root = some .folder
  | [], names => by simp [Passable, Path.collapse]
  | q :: ps, names => by
    rw [List.cons_append, Passable, Passable, collapse_cons, passable_concat, and_assoc]

theorem collapse_concat {p : Text} : ∀ {ps names : List Text}, Path.collapse names (ps ++ [p]) =
    if p = Path.up then (Path.collapse names ps).dropLast else Path.collapse names ps ++ [p]
  | [], names => by
    rw [List.nil_append, collapse_cons]
    split <;> simp [Path.collapse, List.drop_one, List.dropLast_reverse]
  | q :: ps, names => by
    rw [List.cons_append, collapse_cons, collapse_cons, collapse_concat]

/-- Only folders matter for where components can be followed. -/
theorem Passable.mono {root' : Tree} (h : ∀ ks, kindAt ks root = some .folder → kindAt ks root' = some .folder) :
    ∀ {ps names : List Text}, Passable root names ps → Passable root' names ps
  | [], _, _ => trivial
  | _ :: _, _, hpass => ⟨h _ hpass.1, hpass.2.mono h⟩

theorem passable_graft_iff {ks ps : List Text} {content : Bytes} (h : Tree.Admits root ks) :
    Passable (Tree.graft (.file content) ks root) names ps ↔ Passable root names ps :=
  ⟨.mono fun _ => (Tree.kindAt_graft_eq_folder_iff h).1, .mono fun _ => (Tree.kindAt_graft_eq_folder_iff h).2⟩

/-! ## Reading and writing -/

variable {d d' : Disk} {p q : Path} {content b : Bytes}

theorem resolve_parts (d : Disk) (p : Path) : (p.resolve d.cwd).parts = Path.collapse [] (d.partsFromRoot p) := rfl

theorem find_ok_iff : (∃ t, d.find p = .ok t ∧ t.kind = κ) ↔
    Passable d.root [] (d.partsFromRoot p) ∧ kindAt (p.resolve d.cwd).parts d.root = some κ :=
  walk_ok_iff .here

theorem read_eq_ok_iff : d.read p = .ok b ↔
    Passable d.root [] (d.partsFromRoot p) ∧ kindAt (p.resolve d.cwd).parts d.root = some (.file b) := by
  rw [← find_ok_iff, read]
  cases d.find p with
  | error f => simp
  | ok t => cases t <;> simp [Tree.kind]

theorem isFolder_iff : d.isFolder p = true ↔
    Passable d.root [] (d.partsFromRoot p) ∧ kindAt (p.resolve d.cwd).parts d.root = some .folder := by
  rw [← find_ok_iff, isFolder]
  cases d.find p with
  | error f => simp
  | ok t => cases t <;> simp [Tree.kind]

theorem isFile_iff : d.isFile p = true ↔ ∃ b, d.read p = .ok b := by
  rw [isFile, read]
  cases d.find p with
  | error f => simp
  | ok t => cases t <;> simp

/-- A file can be opened for writing if it is there, or if it is not but its folder is. -/
def IsWritable (d : Disk) (p : Path) : Prop :=
  d.isFile p = true ∨ d.find p = .error .absent ∧ d.isFolder p.parent = true

theorem write_eq_ok_iff : d.write p content = .ok d' ↔
    d.IsWritable p ∧ { d with root := Tree.graft (.file content) (p.resolve d.cwd).parts d.root } = d' := by
  rw [write, IsWritable, isFile, resolve_parts]
  cases d.find p with
  | ok t => cases t <;> simp
  | error f => by_cases h : f = .absent ∧ d.isFolder p.parent = true <;> simp [h]

theorem IsWritable.write_ne_error (h : d.IsWritable p) (f : Fault) : d.write p content ≠ .error f := by
  rw [write_eq_ok_iff.2 ⟨h, rfl⟩]
  exact nofun

theorem partsFromRoot_eq_concat (d : Disk) (h : p.parts ≠ []) :
    d.partsFromRoot p = d.partsFromRoot p.parent ++ [p.parts.getLast h] := by
  unfold partsFromRoot Path.parent
  split
  · rw [List.append_assoc, List.dropLast_concat_getLast]
  · rw [List.dropLast_concat_getLast]

theorem parts_ne_nil (habsent : d.find p = .error .absent) (hparent : d.isFolder p.parent = true) : p.parts ≠ [] := by
  intro hnil
  have hsame : p.parent = p := by rw [Path.parent, hnil, List.dropLast_nil, ← hnil]
  rw [hsame, isFolder, habsent] at hparent
  cases hparent

/-- Where nothing stands in a folder that the path leads to, a file can be put. -/
theorem admits_of_parent (habsent : d.find p = .error .absent) (hparent : d.isFolder p.parent = true) :
    Passable d.root [] (d.partsFromRoot p) ∧ Tree.Admits d.root (p.resolve d.cwd).parts := by
  obtain ⟨hpass, hfolder⟩ := isFolder_iff.1 hparent
  rw [resolve_parts] at hfolder
  have hconcat := d.partsFromRoot_eq_concat (parts_ne_nil habsent hparent)
  have hpass' : Passable d.root [] (d.partsFromRoot p) := by
    rw [hconcat, passable_concat]
    exact ⟨hpass, hfolder⟩
  have hnone : kindAt (p.resolve d.cwd).parts d.root = none := by
    refine Option.eq_none_iff_forall_ne_some.2 fun κ hκ => ?_
    obtain ⟨t, ht, -⟩ := find_ok_iff.2 ⟨hpass', hκ⟩
    rw [habsent] at ht
    cases ht
  refine ⟨hpass', ?_⟩
  rw [resolve_parts, hconcat, collapse_concat] at hnone ⊢
  split at hnone
  · -- behind two dots stands the folder above, which is not absent
    obtain ⟨rest, hrest⟩ := List.dropLast_prefix (Path.collapse [] (d.partsFromRoot p.parent))
    rw [← hrest] at hfolder
    rw [Tree.kindAt_folder_of_append hfolder] at hnone
    cases hnone
  · rw [if_neg ‹_›]
    exact Tree.admits_concat hfolder hnone

/-- A file that can be opened for writing has its place in a folder that the path leads to. -/
theorem IsWritable.admits (h : d.IsWritable p) :
    Passable d.root [] (d.partsFromRoot p) ∧ Tree.Admits d.root (p.resolve d.cwd).parts := by
  rcases h with hfile | ⟨habsent, hparent⟩
  · obtain ⟨b, hb⟩ := isFile_iff.1 hfile
    obtain ⟨hpass, hplace⟩ := read_eq_ok_iff.1 hb
    exact ⟨hpass, Tree.admits_of_file hplace⟩
  · exact admits_of_parent habsent hparent

/-- What writing a file changes. -/
structure Written (d : Disk) (p : Path) (content : Bytes) (d' : Disk) : Prop where
  own : d'.read p = .ok content
  others : ∀ q b, q.resolve d.cwd ≠ p.resolve d.cwd → (d'.read q = .ok b ↔ d.read q = .ok b)
  folders : ∀ q, d'.isFolder q = d.isFolder q

/-- **A written file has the content, and nothing else changes.** -/
theorem written_of_write (h : d.write p content = .ok d') : Written d p content d' := by
  obtain ⟨hwritable, rfl⟩ := write_eq_ok_iff.1 h
  obtain ⟨hpass, hadmits⟩ := hwritable.admits
  refine ⟨?_, fun q b hne => ?_, fun q => ?_⟩
  · exact read_eq_ok_iff.2 ⟨(passable_graft_iff hadmits).2 hpass, Tree.kindAt_graft_self _ _⟩
  · have hplace : (q.resolve d.cwd).parts ≠ (p.resolve d.cwd).parts :=
      fun heq => hne (congrArg (Path.mk .root) heq)
    have hkind : kindAt (q.resolve d.cwd).parts (Tree.graft (.file content) (p.resolve d.cwd).parts d.root) =
        kindAt (q.resolve d.cwd).parts d.root := Tree.kindAt_graft_of_ne hadmits hplace
    rw [read_eq_ok_iff, read_eq_ok_iff]
    exact and_congr (passable_graft_iff hadmits) (by rw [hkind])
  · rw [Bool.eq_iff_iff, isFolder_iff, isFolder_iff]
    exact and_congr (passable_graft_iff hadmits) (Tree.kindAt_graft_eq_folder_iff hadmits)

end Disk
end Licensing
