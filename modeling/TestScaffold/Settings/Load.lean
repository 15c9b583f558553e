import TestScaffold.Disk.Local
import TestScaffold.Settings.Document
import TestScaffold.Text.Quoted

/-!
Which settings are in force. One file at most is read: that of the project, or else that of the
user. The environment comes before what the file says, and the outcome is checked.
-/

namespace TestScaffold

structure Overrides where
  testsDir : Option Text := none
  aliasPrefix : Option Text := none
  /-- The source root; an empty one says that there is none. -/
  sourceRoot : Option Text := none
  deriving DecidableEq, Repr

/-- The file of the user's settings, in the directory where programs keep them. -/
def userSettingsFile (directory : Path) : Path :=
  (directory.child "rtgen".toList).child "config.toml".toList

/-- The settings with what the environment says in the place of what they said. -/
def Settings.override (s : Settings) (o : Overrides) : Settings :=
  { s with
    paths := { s.paths with
      testsDir := o.testsDir.getD s.paths.testsDir
      aliasPrefix := o.aliasPrefix.getD s.paths.aliasPrefix
      sourceRoot := match o.sourceRoot with
        | none => s.paths.sourceRoot
        | some root => if root = [] then none else some root } }

inductive SettingsFlaw
  | blankTestsDir
  /-- The text that import paths start with does not end in a slash. -/
  | openAliasPrefix (aliasPrefix : Text)
  deriving DecidableEq, Repr

def PathSettings.flaw? (s : PathSettings) : Option SettingsFlaw :=
  if s.testsDir.trim = [] then some .blankTestsDir
  else if s.aliasPrefix.getLast? ≠ some '/' then some (.openAliasPrefix s.aliasPrefix)
  else none

inductive SettingsError
  | unreadable (cause : FileError)
  | malformed
  | flawed (flaw : SettingsFlaw)
  deriving DecidableEq, Repr

def SettingsError.message : SettingsError → Text
  | unreadable cause => "Failed to read config file: ".toList ++ cause.message
  | malformed => "Failed to parse config file".toList
  | flawed .blankTestsDir => "Invalid configuration: paths.tests_dir must not be empty".toList
  | flawed (.openAliasPrefix aliasPrefix) =>
    "Invalid configuration: paths.alias_prefix must end with '/', got ".toList ++
      aliasPrefix.quoted

/-- The settings with what the environment says, if they have no flaw then. -/
def Settings.settle (s : Settings) (o : Overrides) : Except SettingsError Settings :=
  let s := s.override o
  match s.paths.flaw? with
  | some flaw => .error (.flawed flaw)
  | none => .ok s

theorem PathSettings.flaw?_eq_none_iff {s : PathSettings} :
    s.flaw? = none ↔ s.testsDir.trim ≠ [] ∧ s.aliasPrefix.getLast? = some '/' := by
  unfold flaw?
  by_cases hdir : s.testsDir.trim = []
  · simp [hdir]
  by_cases hprefix : s.aliasPrefix.getLast? = some '/'
  · simp [hdir, hprefix]
  · simp [hdir, hprefix]

/-- Settings are in force when they have no flaw once the environment has had its say. -/
theorem Settings.settle_eq_ok_iff {s t : Settings} {o : Overrides} :
    s.settle o = .ok t ↔ t = s.override o ∧ t.paths.flaw? = none := by
  unfold settle
  cases hflaw : (s.override o).paths.flaw? with
  | none =>
    simp only [hflaw, Except.ok.injEq]
    constructor
    · rintro rfl
      exact ⟨rfl, hflaw⟩
    · exact fun h => h.1.symm
  | some flaw =>
    simp only [hflaw, reduceCtorEq, false_iff, not_and]
    rintro rfl
    simp [hflaw]

namespace LocalFiles

def settingsAt (l : LocalFiles) (o : Overrides) (file : Path) : Except SettingsError Settings :=
  match l.read file with
  | .error cause => .error (.unreadable cause)
  | .ok text =>
    match Settings.ofText? text with
    | none => .error .malformed
    | some s => s.settle o

/-- The settings of the user, whose file is `file`; the defaults when there is no such file. -/
def userSettings (l : LocalFiles) (o : Overrides) (file : Path) : Except SettingsError Settings :=
  if l.holds file then l.settingsAt o file else Settings.settle {} o

/-- The settings of the workspace at `root`; those of the user when it has no file of its own. -/
def workspaceSettings (l : LocalFiles) (o : Overrides) (userFile root : Path) :
    Except SettingsError Settings :=
  let file := root.child settingsFileName
  if l.holds file then l.settingsAt o file else l.userSettings o userFile

end LocalFiles

end TestScaffold
