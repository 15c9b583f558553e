import TestScaffold.Proofs.Settings.Sayings
import TestScaffold.Proofs.Text.Blanks
import TestScaffold.Settings.Load

/-!
The settings in force. One file is read at most, and what becomes of it is the outcome: when it
cannot be read or is no document of settings, that is the error. Otherwise each setting is what the
environment says, or else what the file says, or else the default; and the settings are in force
unless they have a flaw then.
-/

namespace TestScaffold

open Toml

/-- What the environment says of a setting. An empty source root says that there is none. -/
def Setting.override? (o : Overrides) : Setting → Option SettingValue
  | testsDir => o.testsDir.map .text
  | aliasPrefix => o.aliasPrefix.map .text
  | sourceRoot => o.sourceRoot.map fun root => .optional (if root = [] then none else some root)
  | rootMarkers | excludedModules | excludedPrefixes | markupExtensions | sourceExtensions
  | frameworkModule | renderModule | renderBindings => none

/-- What the environment says comes before what was said. -/
theorem Settings.get_override (s : Settings) (o : Overrides) (k : Setting) :
    k.get (s.override o) = (k.override? o).getD (k.get s) := by
  obtain ⟨dir, aliasPrefix, root⟩ := o
  cases k with
  | testsDir => cases dir <;> rfl
  | aliasPrefix => cases aliasPrefix <;> rfl
  | sourceRoot => cases root <;> rfl
  | _ => rfl

/-- The settings have these values, each said by the environment or else by the document. -/
def Settings.AreSaid (c : Settings) (o : Overrides) (doc : Entries) : Prop :=
  ∀ k : Setting, k.get c = (k.override? o).getD (doc.said k)

theorem Settings.exists_override_iff {c : Settings} {o : Overrides} {doc : Entries} :
    (∃ s, ofEntries? doc = some s ∧ c = s.override o) ↔ doc.WellTyped ∧ c.AreSaid o doc := by
  constructor
  · rintro ⟨s, hs, rfl⟩
    obtain ⟨htyped, hsaid⟩ := ofEntries?_eq_some_iff.mp hs
    exact ⟨htyped, fun k => by rw [get_override, hsaid k]⟩
  · rintro ⟨htyped, hc⟩
    obtain ⟨s, hs⟩ := htyped.exists_settings
    obtain ⟨-, hsaid⟩ := ofEntries?_eq_some_iff.mp hs
    exact ⟨s, hs, ext_get fun k => by rw [hc k, get_override, hsaid k]⟩

/-- The flaw of settings, if any: a directory for tests without a name, or else a start of import
paths that does not end in a slash. -/
theorem PathSettings.flaw?_eq_some_iff {s : PathSettings} {flaw : SettingsFlaw} :
    s.flaw? = some flaw ↔
      ((∀ c ∈ s.testsDir, isBlank c = true) ∧ flaw = .blankTestsDir) ∨
      ((∃ c ∈ s.testsDir, isBlank c = false) ∧ s.aliasPrefix.getLast? ≠ some '/' ∧
        flaw = .openAliasPrefix s.aliasPrefix) := by
  unfold flaw?
  by_cases hdir : s.testsDir.trim = []
  · have hblank := Text.trim_eq_nil_iff.mp hdir
    have hnone : ¬ ∃ c ∈ s.testsDir, isBlank c = false := by simpa using hblank
    rw [if_pos hdir, Option.some.injEq]
    exact ⟨fun h => .inl ⟨hblank, h.symm⟩, fun h => h.elim (·.2.symm) (absurd ·.1 hnone)⟩
  · have hsome : ∃ c ∈ s.testsDir, isBlank c = false := by
      simpa [Text.trim_eq_nil_iff] using hdir
    have hnot : ¬ ∀ c ∈ s.testsDir, isBlank c = true := by simpa using hsome
    rw [if_neg hdir]
    by_cases hslash : s.aliasPrefix.getLast? = some '/'
    · simp [hslash, hnot]
    · rw [if_pos hslash, Option.some.injEq]
      exact ⟨fun h => .inr ⟨hsome, hslash, h.symm⟩, fun h => h.elim (absurd ·.1 hnot) (·.2.2.symm)⟩

/-- Settling fails by a flaw alone, the one that the settings have after the environment. -/
theorem Settings.settle_eq_error_iff {s : Settings} {o : Overrides} {e : SettingsError} :
    s.settle o = .error e ↔ ∃ flaw, (s.override o).paths.flaw? = some flaw ∧ e = .flawed flaw := by
  unfold settle
  cases hflaw : (s.override o).paths.flaw? with
  | none => simp [hflaw]
  | some flaw => simp [hflaw, eq_comm]

namespace LocalFiles

/-- The file that says the settings of the workspace at `root`: the first of its own file and that
of the user that is there. -/
def settingsFile? (l : LocalFiles) (userFile root : Path) : Option Path :=
  [root.child settingsFileName, userFile].find? l.holds

/-- What says the settings: the document that the file holds, and an empty one without a file. -/
def Says (l : LocalFiles) (userFile root : Path) (doc : Entries) : Prop :=
  match l.settingsFile? userFile root with
  | none => doc = []
  | some file => ∃ text, l.read file = .ok text ∧ parse? text = some doc

variable {l : LocalFiles} {o : Overrides} {userFile root file : Path} {doc : Entries}

theorem workspaceSettings_eq :
    l.workspaceSettings o userFile root =
      match l.settingsFile? userFile root with
      | none => Settings.settle {} o
      | some file => l.settingsAt o file := by
  unfold workspaceSettings userSettings settingsFile?
  by_cases hroot : l.holds (root.child settingsFileName)
  · simp [hroot]
  by_cases huser : l.holds userFile <;> simp [hroot, huser]

/-- What says the settings decides what they are. -/
theorem Says.workspaceSettings_eq (h : l.Says userFile root doc) :
    l.workspaceSettings o userFile root =
      match Settings.ofEntries? doc with
      | none => .error .malformed
      | some s => s.settle o := by
  unfold Says at h
  rw [LocalFiles.workspaceSettings_eq]
  cases hfile : l.settingsFile? userFile root with
  | none =>
    obtain rfl : doc = [] := by simpa [hfile] using h
    rfl
  | some file =>
    obtain ⟨text, hread, hparse⟩ : ∃ text, l.read file = .ok text ∧ parse? text = some doc := by
      simpa [hfile] using h
    have htext : Settings.ofText? text = Settings.ofEntries? doc := by
      rw [Settings.ofText?, hparse, Option.bind_eq_bind, Option.bind_some]
    cases hs : Settings.ofEntries? doc <;> simp [settingsAt, hread, htext, hs]

/-- The file that says the settings cannot be read, or is no document, or something says them. -/
theorem says_cases (l : LocalFiles) (userFile root : Path) :
    (∃ file cause, l.settingsFile? userFile root = some file ∧ l.read file = .error cause) ∨
    (∃ file text, l.settingsFile? userFile root = some file ∧ l.read file = .ok text ∧
      parse? text = none) ∨
    ∃ doc, l.Says userFile root doc := by
  cases hfile : l.settingsFile? userFile root with
  | none => exact .inr (.inr ⟨[], by simp [Says, hfile]⟩)
  | some file =>
    cases hread : l.read file with
    | error cause => exact .inl ⟨file, cause, rfl, hread⟩
    | ok text =>
      cases hparse : parse? text with
      | none => exact .inr (.inl ⟨file, text, rfl, hread, hparse⟩)
      | some doc => exact .inr (.inr ⟨doc, by simp [Says, hfile, hread, hparse]⟩)

/-- The settings are settled when something says them, each with a value of its type. -/
theorem workspaceSettings_eq_iff_settle {result : Except SettingsError Settings}
    (hread : ∀ cause, result ≠ .error (.unreadable cause)) (hform : result ≠ .error .malformed) :
    l.workspaceSettings o userFile root = result ↔
      ∃ doc s, l.Says userFile root doc ∧ Settings.ofEntries? doc = some s ∧
        s.settle o = result := by
  constructor
  · intro h
    obtain ⟨file, cause, hfile, hcause⟩ | ⟨file, text, hfile, htext, hparse⟩ | ⟨doc, hdoc⟩ :=
      l.says_cases userFile root
    · exact absurd (by simpa [workspaceSettings_eq, hfile, settingsAt, hcause] using h.symm)
        (hread cause)
    · exact absurd (by simpa [workspaceSettings_eq, hfile, settingsAt, htext, Settings.ofText?,
        hparse] using h.symm) hform
    · rw [hdoc.workspaceSettings_eq] at h
      cases hs : Settings.ofEntries? doc with
      | none => exact absurd (by simpa [hs] using h.symm) hform
      | some s => exact ⟨doc, s, hdoc, hs, by simpa [hs] using h⟩
  · rintro ⟨doc, s, hdoc, hs, hsettle⟩
    rw [hdoc.workspaceSettings_eq, hs]
    exact hsettle

theorem workspaceSettings_eq_unreadable_iff {cause : FileError} :
    l.workspaceSettings o userFile root = .error (.unreadable cause) ↔
      ∃ file, l.settingsFile? userFile root = some file ∧ l.read file = .error cause := by
  rw [workspaceSettings_eq]
  cases l.settingsFile? userFile root with
  | none => simp [Settings.settle_eq_error_iff]
  | some file =>
    cases hread : l.read file with
    | error e => simp [settingsAt, hread]
    | ok text =>
      cases hs : Settings.ofText? text <;>
        simp [settingsAt, hread, hs, Settings.settle_eq_error_iff]

theorem workspaceSettings_eq_malformed_iff :
    l.workspaceSettings o userFile root = .error .malformed ↔
      ∃ file text, l.settingsFile? userFile root = some file ∧ l.read file = .ok text ∧
        ∀ doc, parse? text = some doc → ¬ doc.WellTyped := by
  simp only [workspaceSettings_eq, ← Settings.ofText?_eq_none_iff]
  cases l.settingsFile? userFile root with
  | none => simp [Settings.settle_eq_error_iff]
  | some file =>
    cases hread : l.read file with
    | error e => simp [settingsAt, hread]
    | ok text =>
      cases hs : Settings.ofText? text <;>
        simp [settingsAt, hread, hs, Settings.settle_eq_error_iff]

theorem workspaceSettings_eq_ok_iff {c : Settings} :
    l.workspaceSettings o userFile root = .ok c ↔
      ∃ doc, l.Says userFile root doc ∧ doc.WellTyped ∧ c.AreSaid o doc ∧
        c.paths.flaw? = none := by
  rw [workspaceSettings_eq_iff_settle (by simp) (by simp)]
  constructor
  · rintro ⟨doc, s, hdoc, hs, hsettle⟩
    obtain ⟨rfl, hflaw⟩ := Settings.settle_eq_ok_iff.mp hsettle
    obtain ⟨htyped, hsaid⟩ := Settings.exists_override_iff.mp ⟨s, hs, rfl⟩
    exact ⟨doc, hdoc, htyped, hsaid, hflaw⟩
  · rintro ⟨doc, hdoc, htyped, hsaid, hflaw⟩
    obtain ⟨s, hs, rfl⟩ := Settings.exists_override_iff.mpr ⟨htyped, hsaid⟩
    exact ⟨doc, s, hdoc, hs, Settings.settle_eq_ok_iff.mpr ⟨rfl, hflaw⟩⟩

theorem workspaceSettings_eq_flawed_iff {flaw : SettingsFlaw} :
    l.workspaceSettings o userFile root = .error (.flawed flaw) ↔
      ∃ doc c, l.Says userFile root doc ∧ doc.WellTyped ∧ Settings.AreSaid c o doc ∧
        c.paths.flaw? = some flaw := by
  rw [workspaceSettings_eq_iff_settle (by simp) (by simp)]
  constructor
  · rintro ⟨doc, s, hdoc, hs, hsettle⟩
    obtain ⟨_, hflaw, ⟨⟩⟩ := Settings.settle_eq_error_iff.mp hsettle
    obtain ⟨htyped, hsaid⟩ := Settings.exists_override_iff.mp ⟨s, hs, rfl⟩
    exact ⟨doc, _, hdoc, htyped, hsaid, hflaw⟩
  · rintro ⟨doc, _, hdoc, htyped, hsaid, hflaw⟩
    obtain ⟨s, hs, rfl⟩ := Settings.exists_override_iff.mpr ⟨htyped, hsaid⟩
    exact ⟨doc, s, hdoc, hs, Settings.settle_eq_error_iff.mpr ⟨_, hflaw, rfl⟩⟩

/-- Whatever settings are said, the environment can make them settings in force, and can give them
a flaw. -/
theorem Says.exists_overrides (h : l.Says userFile root doc) (htyped : doc.WellTyped) :
    (∃ o c, l.workspaceSettings o userFile root = .ok c) ∧
      ∃ o flaw, l.workspaceSettings o userFile root = .error (.flawed flaw) := by
  obtain ⟨s, hs⟩ := htyped.exists_settings
  let repair : Overrides := { testsDir := some "tests".toList, aliasPrefix := some "@/".toList }
  let damage : Overrides := { testsDir := some [] }
  have hrepair : (s.override repair).paths.flaw? = none :=
    PathSettings.flaw?_eq_none_iff.mpr
      ⟨show Text.trim "tests".toList ≠ [] by decide, rfl⟩
  have hdamage : (s.override damage).paths.flaw? = some .blankTestsDir := rfl
  refine ⟨⟨repair, s.override repair, ?_⟩, damage, .blankTestsDir, ?_⟩
  · rw [h.workspaceSettings_eq, hs]
    exact Settings.settle_eq_ok_iff.mpr ⟨rfl, hrepair⟩
  · rw [h.workspaceSettings_eq, hs]
    exact Settings.settle_eq_error_iff.mpr ⟨_, hdamage, rfl⟩

/-- One file at most says the settings of a workspace: its own, or else that of the user, when there
is one. They depend on no other file. If it cannot be read or is no document with everything of its
type, that is the error. Otherwise each setting is what the environment says, or else what the file
says, or else the default, and the settings are in force unless they have a flaw then. -/
theorem workspaceSettings_of_one_file (l : LocalFiles) (o : Overrides) (userFile root : Path) :
    (∀ l' : LocalFiles, l'.settingsFile? userFile root = l.settingsFile? userFile root →
      (∀ file, l.settingsFile? userFile root = some file → l'.read file = l.read file) →
      l'.workspaceSettings o userFile root = l.workspaceSettings o userFile root) ∧
    (∀ cause, l.workspaceSettings o userFile root = .error (.unreadable cause) ↔
      ∃ file, l.settingsFile? userFile root = some file ∧ l.read file = .error cause) ∧
    (l.workspaceSettings o userFile root = .error .malformed ↔
      ∃ file text, l.settingsFile? userFile root = some file ∧ l.read file = .ok text ∧
        ∀ doc, parse? text = some doc → ¬ doc.WellTyped) ∧
    (∀ c : Settings, l.workspaceSettings o userFile root = .ok c ↔
      ∃ doc, l.Says userFile root doc ∧ doc.WellTyped ∧ c.AreSaid o doc ∧
        (∃ ch ∈ c.paths.testsDir, isBlank ch = false) ∧ c.paths.aliasPrefix.getLast? = some '/') ∧
    (∀ flaw, l.workspaceSettings o userFile root = .error (.flawed flaw) ↔
      ∃ doc, ∃ c : Settings, l.Says userFile root doc ∧ doc.WellTyped ∧ c.AreSaid o doc ∧
        (((∀ ch ∈ c.paths.testsDir, isBlank ch = true) ∧ flaw = .blankTestsDir) ∨
          ((∃ ch ∈ c.paths.testsDir, isBlank ch = false) ∧
            c.paths.aliasPrefix.getLast? ≠ some '/' ∧
            flaw = .openAliasPrefix c.paths.aliasPrefix))) ∧
    (∀ doc, l.Says userFile root doc → doc.WellTyped →
      (∃ o c, l.workspaceSettings o userFile root = .ok c) ∧
        ∃ o flaw, l.workspaceSettings o userFile root = .error (.flawed flaw)) := by
  refine ⟨fun l' hfile hread => ?_, fun cause => workspaceSettings_eq_unreadable_iff,
    workspaceSettings_eq_malformed_iff, fun c => ?_, fun flaw => ?_,
    fun doc => Says.exists_overrides⟩
  · rw [workspaceSettings_eq, workspaceSettings_eq, hfile]
    cases hsome : l.settingsFile? userFile root with
    | none => rfl
    | some file => simp only [settingsAt, hread file hsome]
  · simpa [PathSettings.flaw?_eq_none_iff, Text.trim_eq_nil_iff] using workspaceSettings_eq_ok_iff
  · simpa only [PathSettings.flaw?_eq_some_iff] using workspaceSettings_eq_flawed_iff

end LocalFiles

end TestScaffold
