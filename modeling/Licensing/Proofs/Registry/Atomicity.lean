import Mathlib.Data.List.Forall2
import Licensing.Json.Writer
import Licensing.Proofs.Disk.Writing
import Licensing.Proofs.Except
import Licensing.Proofs.Json.Lenient
import Licensing.Registry.Update
/-!
# A registry is old or complete

Published bytes give identifiers if they are a record with a list in which every entry has one (`idsOfBytes_eq_ok_iff`).
What is written as a record is published as that record (`idsOfBytes_render`).
A run writes the registry of all identifiers of both lists, in the order in which they are published, or leaves the disk
as it was (`run_atomic`).
-/
namespace Licensing.Registry

/-! ## Identifiers in published bytes -/

section Payload

variable {l : Listed} {v : Value Wide}

/-- The identifier of an entry. -/
def Listed.Names (l : Listed) (entry id : Value Wide) : Prop :=
  ∃ fs, entry = .record fs ∧ fs.lookup (Wide.ofText l.idKey.toList) = some id

/-- The bytes are a JSON record with a list in which every entry has an identifier, and these are they; no more than so
many brackets are open at once. -/
def Listed.Lists (l : Listed) (brackets : Nat) (bs : Bytes) (ids : List (Value Wide)) : Prop :=
  ∃ w fs entries, Json.decode bs = .ok w ∧ Json.readWide brackets w = .ok (.record fs) ∧
    fs.lookup (Wide.ofText l.name.toList) = some (.list entries) ∧ List.Forall₂ l.Names entries ids

theorem entryId_eq_ok_iff {id : Value Wide} : entryId l.idKey.toList v = .ok id ↔ l.Names v id := by
  unfold Listed.Names
  cases v with
  | record fs => cases hid : fs.lookup (Wide.ofText l.idKey.toList) <;> simp [entryId, hid]
  | _ => simp [entryId]

theorem entryIds_eq_ok_iff {vs ids : List (Value Wide)} :
    entryIds l.idKey.toList vs = .ok ids ↔ List.Forall₂ l.Names vs ids := by
  induction vs generalizing ids with
  | nil => simp [entryIds, eq_comm]
  | cons v vs ih =>
    rw [entryIds, List.forall₂_cons_left_iff]
    cases hid : entryId l.idKey.toList v with
    | error f =>
      refine iff_of_false (by simp) fun h => ?_
      obtain ⟨i, is, hi, -⟩ := h
      rw [entryId_eq_ok_iff.2 hi] at hid
      cases hid
    | ok i =>
      dsimp only
      rw [map_eq_ok_iff]
      constructor
      · rintro ⟨is, his, rfl⟩
        exact ⟨i, is, entryId_eq_ok_iff.1 hid, ih.1 his, rfl⟩
      · rintro ⟨j, is, hj, his, rfl⟩
        obtain rfl := Except.ok.inj (hid.symm.trans (entryId_eq_ok_iff.2 hj))
        exact ⟨is, ih.2 his, rfl⟩

/-- Neither the points of a text nor the keys of a record have identifiers. -/
theorem entryIds_text_ne {t : List Wide} {ids : List (Value Wide)} (h : ids ≠ []) :
    entryIds l.idKey.toList (t.map .text) ≠ .ok ids := by
  rw [Ne, entryIds_eq_ok_iff]
  intro hids
  cases t with
  | nil => exact h (List.forall₂_nil_left_iff.1 hids)
  | cons w t =>
    obtain ⟨i, is, ⟨fs, hfs, -⟩, -⟩ := List.forall₂_cons_left_iff.1 hids
    cases hfs

theorem idsOfValue_eq_ok_iff {ids : List (Value Wide)} (h : ids ≠ []) : idsOfValue l v = .ok ids ↔
    ∃ fs entries, v = .record fs ∧ fs.lookup (Wide.ofText l.name.toList) = some (.list entries) ∧
      List.Forall₂ l.Names entries ids := by
  cases v with
  | record fs =>
    rw [idsOfValue]
    cases hlist : fs.lookup (Wide.ofText l.name.toList) with
    | none =>
      have hnil : entryIds l.idKey.toList [] ≠ .ok ids := entryIds_text_ne (t := []) h
      simp [Except.bind, entries, hnil, hlist]
    | some v =>
      cases v with
      | list es => simp [Except.bind, entries, hlist, entryIds_eq_ok_iff]
      | text w =>
        have htext := entryIds_text_ne (l := l) (t := w.map ([·])) h
        rw [List.map_map] at htext
        simpa [Except.bind, entries, hlist, Function.comp_def] using htext
      | record gs =>
        have hkeys := entryIds_text_ne (l := l) (t := gs.map Prod.fst) h
        rw [List.map_map] at hkeys
        simpa [Except.bind, entries, hlist, Function.comp_def] using hkeys
      | _ => simp [Except.bind, entries, hlist]
  | _ => simp [idsOfValue]

/-- **Bytes give identifiers exactly if they list them.** -/
theorem idsOfBytes_eq_ok_iff {brackets : Nat} {bs : Bytes} {ids : List (Value Wide)} (h : ids ≠ []) :
    idsOfBytes brackets l bs = .ok ids ↔ l.Lists brackets bs ids := by
  unfold idsOfBytes Listed.Lists
  cases Json.decode bs with
  | error d => simp
  | ok w =>
    cases hv : Json.readWide brackets w with
    | error e =>
      obtain ⟨f, n⟩ := e
      cases f <;> simp [hv]
    | ok v => simp [hv, idsOfValue_eq_ok_iff h]

/-- There is too much of something in the published bytes. -/
def PayloadFault.IsLimit : PayloadFault → Prop
  | .tooDeep => True
  | .malformed _ e => e.fault.IsLimit
  | _ => False

/-- **A record that is written in UTF-8 gives the identifiers in it**, unless it meets a limit of the reader. -/
theorem idsOfBytes_render {layout : Json.Layout} (hlayout : layout.Spaced) {fs : Fields}
    (h : Json.Lossless (.record fs)) (brackets : Nat) (l : Listed) :
    let bs := Utf8.encode (Json.render layout (.record fs))
    idsOfBytes brackets l bs = idsOfValue l ((Value.record fs).map Wide.ofText) ∨
      ∃ f, idsOfBytes brackets l bs = .error f ∧ f.IsLimit := by
  intro bs
  unfold idsOfBytes
  rw [Json.decode_render_record]
  dsimp only
  rcases Json.readWide_of_read (Json.read_render hlayout h) brackets with hread | ⟨⟨f, n⟩, hread, hlimit⟩
  · rw [hread]
    exact .inl rfl
  · rw [hread]
    obtain rfl | ⟨limit, digits, rfl⟩ := hlimit
    · exact .inr ⟨_, rfl, trivial⟩
    · exact .inr ⟨_, rfl, .inr ⟨limit, digits, rfl⟩⟩

end Payload

namespace Update

variable {brackets : Nat} {web : Web} {d : Disk} {r : Request} {version : Text} {ls es : List (Value Wide)}

/-! ## Fetching both lists -/

theorem mayFetch_url (version : Text) (l : Listed) : mayFetch (url version l) = true := rfl

/-- A release publishes these identifiers. -/
def Publishes (brackets : Nat) (web : Web) (version : Text) (l : Listed) (ids : List (Value Wide)) : Prop :=
  ids ≠ [] ∧ ∃ bs, web (url version l) = .ok bs ∧ l.Lists brackets bs ids

theorem idsAt_eq_ok_iff {l : Listed} {ids : List (Value Wide)} (h : ids ≠ []) :
    idsAt brackets web (url version l) l = .ok ids ↔ Publishes brackets web version l ids := by
  unfold idsAt fetch Publishes
  rw [if_pos (mayFetch_url version l)]
  cases web (url version l) with
  | error f => simp
  | ok bs => simp [h, idsOfBytes_eq_ok_iff h]

theorem fetchIds_eq_ok_iff : (fetchIds brackets web version).2 = .ok (ls, es) ↔
    Publishes brackets web version .licenses ls ∧ Publishes brackets web version .exceptions es := by
  constructor
  · intro h
    cases hls : idsAt brackets web (url version .licenses) .licenses with
    | error f => simp [fetchIds, hls] at h
    | ok ls' =>
      cases hes : idsAt brackets web (url version .exceptions) .exceptions with
      | error f => simp [fetchIds, hls, hes] at h
      | ok es' =>
        simp only [fetchIds, hls, hes] at h
        split at h
        · cases h
        · rename_i hsome
          obtain ⟨rfl, rfl⟩ := Prod.mk.inj (Except.ok.inj h)
          obtain ⟨hlicense, hexception⟩ : ls' ≠ [] ∧ es' ≠ [] := by simpa using hsome
          exact ⟨(idsAt_eq_ok_iff hlicense).1 hls, (idsAt_eq_ok_iff hexception).1 hes⟩
  · rintro ⟨hls, hes⟩
    have hlicenses := (idsAt_eq_ok_iff hls.1).2 hls
    have hexceptions := (idsAt_eq_ok_iff hes.1).2 hes
    simp [fetchIds, hlicenses, hexceptions, hls.1, hes.1]

/-! ## Runs -/

/-- All that a request needs: a release that publishes both lists, and a file that can be written. -/
structure Request.Completes (r : Request) (brackets : Nat) (web : Web) (d : Disk) (version : Text)
    (ls es : List (Value Wide)) : Prop where
  release : r.version = some version
  licenses : Publishes brackets web version .licenses ls
  exceptions : Publishes brackets web version .exceptions es
  output : d.IsWritable r.output

/-- The run has not ended well, and the disk is as it was. -/
def Report.LeavesAlone (report : Report) (d : Disk) : Prop := report.ending ≠ .code 0 ∧ report.disk = d

theorem failed_leavesAlone (r : Request) (d : Disk) (urls : List Text) (f : Failure) :
    (failed r d urls f).LeavesAlone d := by
  unfold failed
  split
  · exact ⟨by simp, rfl⟩
  · split <;> exact ⟨by simp, rfl⟩

theorem stopped_leavesAlone (d : Disk) (s : CommandLine.Stop) : (stopped d s).LeavesAlone d := by
  cases s <;> exact ⟨by simp [stopped], rfl⟩

/-- A request that has all it needs writes the registry. -/
theorem Request.Completes.report (h : r.Completes brackets web d version ls es) :
    (r.report brackets web d).ending = .code 0 ∧
    d.write r.output (Utf8.encode (source version ls es)) = .ok (r.report brackets web d).disk := by
  have hfetched : (fetchIds brackets web r.release).2 = .ok (ls, es) := by
    rw [Request.release, h.release]
    exact fetchIds_eq_ok_iff.2 ⟨h.licenses, h.exceptions⟩
  unfold Request.report
  rcases hfetch : fetchIds brackets web r.release with ⟨urls, ids⟩
  obtain rfl : ids = .ok (ls, es) := by rwa [hfetch] at hfetched
  cases hwrite : d.write r.output (Utf8.encode (source version ls es)) with
  | ok d' => simp [h.release, hwrite]
  | error f => exact absurd hwrite (h.output.write_ne_error f)

/-- A request that lacks something writes nothing. -/
theorem Request.report_of_incomplete (h : ∀ version ls es, ¬ r.Completes brackets web d version ls es) :
    (r.report brackets web d).LeavesAlone d := by
  unfold report
  rcases hfetch : fetchIds brackets web r.release with ⟨urls, ids⟩
  cases ids with
  | error f => exact failed_leavesAlone r d urls f
  | ok p =>
    obtain ⟨ls, es⟩ := p
    cases hversion : r.version with
    | none => exact ⟨nofun, rfl⟩
    | some version =>
      obtain ⟨hlicenses, hexceptions⟩ : Publishes brackets web version .licenses ls ∧
          Publishes brackets web version .exceptions es := by
        have hrelease : r.release = version := by rw [release, hversion, Option.getD_some]
        rw [← fetchIds_eq_ok_iff, ← hrelease, hfetch]
      cases hwrite : d.write r.output (Utf8.encode (source version ls es)) with
      | ok d' => exact absurd ⟨hversion, hlicenses, hexceptions, (Disk.write_eq_ok_iff.1 hwrite).1⟩ (h version ls es)
      | error f => exact ⟨by simp [hwrite], by simp [hwrite]⟩

/-- **Updating a registry is atomic.**  A run ends with code 0 exactly if the command line is a request for a release
that publishes both lists, and the output can be written; then the output holds the registry of all identifiers in the
order in which they are published, and nothing else on the disk changes.  After every other run, whether it ends with
a message or in a crash, the disk is as it was before. -/
theorem run_atomic (brackets : Nat) (web : Web) (d : Disk) (words : List Text) :
    ((run brackets web d words).ending = .code 0 ↔
      ∃ r version ls es, Request.ofWords words = .ok r ∧ r.Completes brackets web d version ls es) ∧
    (∀ r version ls es, Request.ofWords words = .ok r → r.Completes brackets web d version ls es →
      d.Written r.output (Utf8.encode (source version ls es)) (run brackets web d words).disk) ∧
    ((run brackets web d words).ending ≠ .code 0 → (run brackets web d words).disk = d) := by
  unfold run
  cases hwords : Request.ofWords words with
  | error s =>
    obtain ⟨hending, hdisk⟩ := stopped_leavesAlone d s
    exact ⟨iff_of_false hending (by simp), by simp, fun _ => hdisk⟩
  | ok r =>
    have hsame {r' : Request} (hr : (.ok r : Except CommandLine.Stop Request) = .ok r') : r = r' := Except.ok.inj hr
    refine ⟨⟨fun hending => ?_, ?_⟩, ?_, fun hending => ?_⟩
    · refine Classical.byContradiction fun hnone => ?_
      have hincomplete : ∀ version ls es, ¬ r.Completes brackets web d version ls es :=
        fun version ls es h => hnone ⟨r, version, ls, es, rfl, h⟩
      exact (Request.report_of_incomplete hincomplete).1 hending
    · rintro ⟨r', version, ls, es, hr, hcomplete⟩
      exact (hsame hr ▸ hcomplete.report).1
    · intro r' version ls es hr hcomplete
      obtain rfl := hsame hr
      exact Disk.written_of_write hcomplete.report.2
    · exact (Request.report_of_incomplete fun _ _ _ h => hending h.report.1).2

/-- One identifier is half of a character, and the second list of the other release opens a bracket too many. -/
theorem run_atomic_second_list_broken :
    let published (l : Listed) (ids : List Text) : Bytes := Utf8.encode <| Json.render .line <| .record
      [(l.name.toList, .list (ids.map fun t => .record [("isFsfLibre".toList, .bool true), (l.idKey.toList, .text t)]))]
    let halved (bs : Bytes) : Bytes := bs.flatMap fun b => if b = 64 then [0xED, 0xA0, 0x80] else [b]
    let licenses := halved (published .licenses ["MIT".toList, "@".toList])
    let web : Web := fun u =>
      if u = url "v9".toList .licenses then .ok licenses else .ok (published .exceptions ["LLVM-exception".toList])
    let broken : Web := fun u => if u = url "v9".toList .licenses then .ok licenses else .ok (Utf8.encode "[[[[".toList)
    let d : Disk := ⟨.folder [("w".toList, .folder [("out.py".toList, .file [35])])], ["w".toList]⟩
    let words := ["--version".toList, "v9".toList, "out.py".toList]
    let ls : List (Value Wide) := [.text (Wide.ofText "MIT".toList), .text [.half 0]]
    let es : List (Value Wide) := [.text (Wide.ofText "LLVM-exception".toList)]
    (run 3 web d words).disk.read (Path.ofText "out.py".toList) = .ok (Utf8.encode (source "v9".toList ls es)) ∧
      (run 3 broken d words).ending = .crash (.payload .tooDeep) ∧ (run 3 broken d words).disk = d := by
  intro published halved licenses web broken d words ls es
  have hwords : Request.ofWords words = .ok ⟨some "v9".toList, Path.ofText "out.py".toList⟩ := by rfl
  have hlicenses : Publishes 3 web "v9".toList .licenses ls := (idsAt_eq_ok_iff (by simp [ls])).1 (by decide +kernel)
  have hexceptions : Publishes 3 web "v9".toList .exceptions es :=
    (idsAt_eq_ok_iff (by simp [es])).1 (by decide +kernel)
  have hwritable : d.IsWritable (Path.ofText "out.py".toList) := .inl (by decide +kernel)
  have hbroken : (run 3 broken d words).ending = .crash (.payload .tooDeep) := by decide +kernel
  obtain ⟨-, hwritten, -⟩ := run_atomic 3 web d words
  exact ⟨(hwritten _ _ _ _ hwords ⟨rfl, hlicenses, hexceptions, hwritable⟩).own, hbroken,
    (run_atomic 3 broken d words).2.2 (by rw [hbroken]; nofun)⟩

end Update
end Licensing.Registry
