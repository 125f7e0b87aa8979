import Licensing.Config.Load
import Licensing.Proofs.Except
import Licensing.Run
/-!
# Which settings are loaded

The settings of a directory, read off the disk: the file they come from, the table in it, and what becomes of the table.
-/
namespace Licensing.Config

variable {d : Disk} {start : Path}

/-- The file that is read for the settings of a directory: its own settings file, and else its project file. -/
inductive Consults (d : Disk) (start : Path) : Path → Bytes → Prop
  | own {b : Bytes} (h : content? d (start.child ownFile) = some b) : Consults d start (start.child ownFile) b
  | project {b : Bytes} (hn : content? d (start.child ownFile) = none)
      (h : content? d (start.child projectFile) = some b) : Consults d start (start.child projectFile) b

/-- The table of settings of a directory, with its name in messages. -/
inductive Holds (d : Disk) (start : Path) : Text → Fields → Prop
  | own {b : Bytes} {fs : Fields} (h : content? d (start.child ownFile) = some b)
      (hr : readToml (start.child ownFile) b = .ok fs) : Holds d start (start.child ownFile).text fs
  | project {b : Bytes} {fs table : Fields} (hn : content? d (start.child ownFile) = none)
      (h : content? d (start.child projectFile) = some b) (hr : readToml (start.child projectFile) b = .ok fs)
      (hs : sectionOf? fs = some table) :
      Holds d start ((start.child projectFile).text ++ " [".toList ++ sectionName.toList ++ [']']) table

/-- A directory without a settings file whose project file, if there is one, has no settings in it. -/
def Bare (d : Disk) (start : Path) : Prop :=
  content? d (start.child ownFile) = none ∧ ∀ b, content? d (start.child projectFile) = some b →
    ∃ fs, readToml (start.child projectFile) b = .ok fs ∧ sectionOf? fs = none

/-- What loading the settings of a directory has to come to. -/
inductive Loads (d : Disk) (start : Path) : Except LoadError Config → Prop
  | undecodable {p : Path} {b : Bytes} {x : Utf8.Damage} (h : Consults d start p b) (hb : Utf8.decode b = .error x) :
      Loads d start (.error (.undecodable x))
  | malformed {p : Path} {b : Bytes} {t : Text} (h : Consults d start p b) (hb : Utf8.decode b = .ok t)
      (ht : Toml.read? (Text.unifyEnds t) = none) : Loads d start (.error (.refused ⟨p.text, .invalidToml⟩))
  | refused {source : Text} {fs : Fields} {e : Error} (h : Holds d start source fs) (he : ofTable source fs = .error e)
      (hs : e.fault.isShowable = true) : Loads d start (.error (.refused e))
  | unshowable {source : Text} {fs : Fields} {e : Error} (h : Holds d start source fs)
      (he : ofTable source fs = .error e) (hs : e.fault.isShowable = false) : Loads d start (.error .unshowable)
  | settings {source : Text} {fs : Fields} {c : Config} (h : Holds d start source fs) (hc : ofTable source fs = .ok c) :
      Loads d start (.ok c)
  | defaults (h : Bare d start) : Loads d start (.ok defaults)

/-! ## The three ways to settings -/

theorem Consults.result_load {p : Path} {b : Bytes} {e : LoadError} (h : Consults d start p b)
    (hr : readToml p b = .error e) : (load d start).result = .error e := by
  cases h with
  | own h =>
    simp only [load, h, hr]
    rfl
  | project hn h =>
    simp only [load, hn, loadProject, h, hr]
    rfl

theorem Holds.result_load {source : Text} {fs : Fields} (h : Holds d start source fs) :
    (load d start).result = (ofTable source fs).mapError refusal := by
  cases h with
  | own h hr =>
    simp only [load, h, hr, Run.result_bind, Run.result_ofExcept]
    rfl
  | project hn h hr hs =>
    simp only [load, hn, loadProject, h, hr]
    rw [Run.result_bind_of_ok (r := Run.ofExcept _) rfl, hs]
    rfl

theorem Bare.result_load (h : Bare d start) : (load d start).result = .ok defaults := by
  simp only [load, h.1, loadProject]
  cases hb : content? d (start.child projectFile) with
  | none => rfl
  | some b =>
    obtain ⟨fs, hr, hs⟩ := h.2 b hb
    show (Run.ofExcept (readToml (start.child projectFile) b) >>= _).result = _
    rw [hr, Run.result_bind_of_ok (r := Run.ofExcept _) rfl, hs]
    rfl

theorem consults_or_holds_or_bare (d : Disk) (start : Path) :
    (∃ p b e, Consults d start p b ∧ readToml p b = .error e) ∨ (∃ source fs, Holds d start source fs) ∨
      Bare d start := by
  cases hn : content? d (start.child ownFile) with
  | some b =>
    cases hr : readToml (start.child ownFile) b with
    | error e => exact .inl ⟨_, _, _, .own hn, hr⟩
    | ok fs => exact .inr (.inl ⟨_, _, .own hn hr⟩)
  | none =>
    cases hb : content? d (start.child projectFile) with
    | none => exact .inr (.inr ⟨hn, fun b h => absurd (hb.symm.trans h) nofun⟩)
    | some b =>
      cases hr : readToml (start.child projectFile) b with
      | error e => exact .inl ⟨_, _, _, .project hn hb, hr⟩
      | ok fs =>
        cases hs : sectionOf? fs with
        | some table => exact .inr (.inl ⟨_, _, .project hn hb hr hs⟩)
        | none =>
          refine .inr (.inr ⟨hn, fun b' h => ?_⟩)
          cases hb.symm.trans h
          exact ⟨fs, hr, hs⟩

/-! ## Loading -/

theorem readToml_of_malformed {p : Path} {b : Bytes} {t : Text} (hb : Utf8.decode b = .ok t)
    (ht : Toml.read? (Text.unifyEnds t) = none) : readToml p b = .error (.refused ⟨p.text, .invalidToml⟩) := by
  simp only [readToml, hb, ht]

theorem Loads.result_eq {r : Except LoadError Config} (h : Loads d start r) : (load d start).result = r := by
  cases h with
  | undecodable h hb => exact h.result_load (by rw [readToml, hb])
  | malformed h hb ht => exact h.result_load (readToml_of_malformed hb ht)
  | refused h he hs => rw [h.result_load, he, mapError_error, refusal, if_pos hs]
  | unshowable h he hs => rw [h.result_load, he, mapError_error, refusal, if_neg (Bool.eq_false_iff.1 hs)]
  | settings h hc => rw [h.result_load, hc, mapError_ok]
  | defaults h => exact h.result_load

theorem exists_loads (d : Disk) (start : Path) : ∃ r, Loads d start r := by
  rcases consults_or_holds_or_bare d start with ⟨p, b, e, h, hr⟩ | ⟨source, fs, h⟩ | h
  · cases hb : Utf8.decode b with
    | error x => exact ⟨_, .undecodable h hb⟩
    | ok t =>
      cases ht : Toml.read? (Text.unifyEnds t) with
      | none => exact ⟨_, .malformed h hb ht⟩
      | some fs => simp only [readToml, hb, ht] at hr; cases hr
  · cases hc : ofTable source fs with
    | ok c => exact ⟨_, .settings h hc⟩
    | error e =>
      cases hs : e.fault.isShowable with
      | true => exact ⟨_, .refused h hc hs⟩
      | false => exact ⟨_, .unshowable h hc hs⟩
  · exact ⟨_, .defaults h⟩

/-- Loading the settings of a directory comes to what it has to, and to nothing else. -/
theorem result_load_eq_iff {r : Except LoadError Config} : (load d start).result = r ↔ Loads d start r := by
  constructor
  · rintro rfl
    obtain ⟨r, h⟩ := exists_loads d start
    exact h.result_eq ▸ h
  · exact fun h => h.result_eq

end Licensing.Config
