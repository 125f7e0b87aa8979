import Licensing.Proofs.Config.Loading
/-!
# Settings that are overlooked

A settings file that is present should count: its table is what the settings are made of, or else loading is refused,
and the defaults are for a directory without settings (`Honours`).  A section of the project file that is no table does
not count, and neither it nor the defaults that take its place are reported.  This and a refused value that no message
can show are all that goes wrong (`honours_iff`).
-/
namespace Licensing.Config

variable {d : Disk} {start : Path}

/-- The regular file at a path is a text of settings that can be read as this table. -/
def Document (d : Disk) (p : Path) (fs : Fields) : Prop := ∃ b, content? d p = some b ∧ readToml p b = .ok fs

/-- What a project file has under the key `tplkit` of its table `tool`. -/
def sectionValue? (fs : Fields) : Option Value :=
  match fs.lookup "tool".toList with
  | some (.record tool) => tool.lookup "tplkit".toList
  | _ => none

/-- The name of the section of a project file in messages. -/
def sectionSource (start : Path) : Text :=
  (start.child projectFile).text ++ " [".toList ++ sectionName.toList ++ [']']

theorem sectionOf?_eq_some_iff {fs table : Fields} :
    sectionOf? fs = some table ↔ sectionValue? fs = some (.record table) := by
  unfold sectionOf? sectionValue?
  cases fs.lookup "tool".toList with
  | none => simp
  | some v =>
    cases v with
    | record tool =>
      dsimp only
      cases tool.lookup "tplkit".toList with
      | none => simp
      | some w => cases w <;> simp
    | _ => simp

/-- Nothing that is configured is silently ignored. -/
structure Honours (d : Disk) (start : Path) : Prop where
  /-- The directory's own settings file is checked as a whole. -/
  own : ∀ fs, Document d (start.child ownFile) fs →
    (load d start).result = (ofTable (start.child ownFile).text fs).mapError .refused
  /-- Else the section of the project file is checked, and refused unless it is a table. -/
  project : content? d (start.child ownFile) = none → ∀ fs v, Document d (start.child projectFile) fs →
    sectionValue? fs = some v →
      (∃ table, v = .record table ∧ (load d start).result = (ofTable (sectionSource start) table).mapError .refused) ∨
        ((∀ table, v ≠ .record table) ∧ ∃ e, (load d start).result = .error (.refused e))
  /-- Settings that are not made of a table are the defaults, and then neither file has any. -/
  defaults : ∀ c, (load d start).result = .ok c → (∃ source fs, Holds d start source fs ∧ ofTable source fs = .ok c) ∨
    (c = Config.defaults ∧ content? d (start.child ownFile) = none ∧
      ∀ fs, Document d (start.child projectFile) fs → sectionValue? fs = none)

/-- There is no settings file, and the section of the project file is no table. -/
def Overlooks (d : Disk) (start : Path) : Prop :=
  content? d (start.child ownFile) = none ∧ ∃ fs v, Document d (start.child projectFile) fs ∧
    sectionValue? fs = some v ∧ ∀ table, v ≠ .record table

/-- A value in the table of settings is refused that no message can show. -/
def Unshowable (d : Disk) (start : Path) : Prop :=
  ∃ source fs e, Holds d start source fs ∧ ofTable source fs = .error e ∧ e.fault.isShowable = false

/-- **A section that is no table is passed over for the defaults.** -/
theorem Overlooks.result_load (h : Overlooks d start) : (load d start).result = .ok defaults := by
  obtain ⟨hn, fs, v, ⟨b, hb, hr⟩, hv, htable⟩ := h
  have hnone : sectionOf? fs = none := by
    cases hs : sectionOf? fs with
    | none => rfl
    | some table =>
      rw [sectionOf?_eq_some_iff, hv] at hs
      exact absurd (Option.some.inj hs) (htable table)
  refine Bare.result_load ⟨hn, fun b' hb' => ?_⟩
  obtain rfl := Option.some.inj (hb.symm.trans hb')
  exact ⟨fs, hr, hnone⟩

theorem Unshowable.result_load (h : Unshowable d start) : (load d start).result = .error .unshowable := by
  obtain ⟨source, fs, e, hh, he, hs⟩ := h
  exact (Loads.unshowable hh he hs).result_eq

/-- A table of settings is what decides, if whatever it is refused for can be shown. -/
theorem Holds.result_load_of_showable {source : Text} {fs : Fields} (h : Holds d start source fs)
    (hs : ¬ Unshowable d start) : (load d start).result = (ofTable source fs).mapError .refused := by
  rw [h.result_load]
  cases he : ofTable source fs with
  | ok c => rfl
  | error e =>
    cases hshow : e.fault.isShowable with
    | false => exact absurd ⟨source, fs, e, h, he, hshow⟩ hs
    | true => rw [mapError_error, mapError_error, refusal, if_pos hshow]

theorem Honours.not_overlooks (h : Honours d start) : ¬ Overlooks d start := by
  intro ho
  have hload := ho.result_load
  obtain ⟨hn, fs, v, hdoc, hv, htable⟩ := ho
  rcases h.project hn fs v hdoc hv with ⟨table, rfl, -⟩ | ⟨-, e, he⟩
  · exact htable table rfl
  · rw [hload] at he
    cases he

theorem Honours.not_unshowable (h : Honours d start) : ¬ Unshowable d start := by
  intro hu
  -- the check of the table that decides ends in an error of its own, which is always a refusal
  have hrefused : ∀ {r : Except Error Config}, (load d start).result ≠ r.mapError .refused := by
    intro r hr
    rw [hu.result_load] at hr
    cases r with
    | ok c => cases hr
    | error e => cases hr
  obtain ⟨source, fs, e, hh, -, -⟩ := hu
  cases hh with
  | own hb hr => exact hrefused (h.own fs ⟨_, hb, hr⟩)
  | project hn hb hr hs =>
    rcases h.project hn _ _ ⟨_, hb, hr⟩ (sectionOf?_eq_some_iff.1 hs) with ⟨table, -, ht⟩ | ⟨htable, -⟩
    · exact hrefused ht
    · exact htable fs rfl

theorem honours_of_not (ho : ¬ Overlooks d start) (hu : ¬ Unshowable d start) : Honours d start where
  own fs h := by
    obtain ⟨b, hb, hr⟩ := h
    exact (Holds.own hb hr).result_load_of_showable hu
  project hn fs v h hv := by
    by_cases htable : ∃ table, v = .record table
    · obtain ⟨table, rfl⟩ := htable
      obtain ⟨b, hb, hr⟩ := h
      exact .inl ⟨table, rfl, (Holds.project hn hb hr (sectionOf?_eq_some_iff.2 hv)).result_load_of_showable hu⟩
    · exact absurd ⟨hn, fs, v, h, hv, fun table hv => htable ⟨table, hv⟩⟩ ho
  defaults c hc := by
    cases result_load_eq_iff.1 hc with
    | settings h hc => exact .inl ⟨_, _, h, hc⟩
    | defaults h =>
      refine .inr ⟨rfl, h.1, fun fs hdoc => ?_⟩
      cases hv : sectionValue? fs with
      | none => rfl
      | some v =>
        -- the file has no section that is a table, so this one would be passed over
        refine absurd ⟨h.1, fs, v, hdoc, hv, ?_⟩ ho
        rintro table rfl
        obtain ⟨b, hb, hr⟩ := hdoc
        obtain ⟨fs', hr', hs⟩ := h.2 b hb
        obtain rfl := Except.ok.inj (hr.symm.trans hr')
        rw [sectionOf?_eq_some_iff.2 hv] at hs
        cases hs

/-- **Settings that are present count, with two exceptions.**  Nothing is silently ignored exactly if no section of a
project file that is no table decides and every refused value can be shown.  In the first case the settings are the
defaults, without any message; in the second there is no answer. -/
theorem honours_iff (d : Disk) (start : Path) :
    (Honours d start ↔ ¬ Overlooks d start ∧ ¬ Unshowable d start) ∧
      (Overlooks d start → (load d start).result = .ok defaults) ∧
      (Unshowable d start → (load d start).result = .error .unshowable) :=
  ⟨⟨fun h => ⟨h.not_overlooks, h.not_unshowable⟩, fun h => honours_of_not h.1 h.2⟩, Overlooks.result_load,
    Unshowable.result_load⟩

/-- A section that is an array of tables. -/
theorem load_overlooks_array :
    let d : Disk := ⟨.folder [("w".toList, .folder [("pyproject.toml".toList,
      .file (Utf8.encode "[[tool.tplkit]]\nheader-lines = 5\n".toList))])], ["w".toList]⟩
    let start := Path.ofText ".".toList
    let fs : Fields := [("tool".toList, .record [("tplkit".toList, .list [.record [("header-lines".toList, .int 5)]])])]
    content? d (start.child ownFile) = none ∧ Document d (start.child projectFile) fs ∧
      sectionValue? fs = some (.list [.record [("header-lines".toList, .int 5)]]) ∧
      (load d start).result = .ok defaults ∧ ¬ Honours d start := by
  intro d start fs
  have hn : content? d (start.child ownFile) = none := by decide +kernel
  have hdoc : Document d (start.child projectFile) fs :=
    ⟨Utf8.encode "[[tool.tplkit]]\nheader-lines = 5\n".toList, by decide +kernel,
      toOption_eq_some_iff.1 (by decide +kernel)⟩
  have ho : Overlooks d start := ⟨hn, fs, _, hdoc, rfl, nofun⟩
  exact ⟨hn, hdoc, rfl, ho.result_load, fun h => h.not_overlooks ho⟩

end Licensing.Config
