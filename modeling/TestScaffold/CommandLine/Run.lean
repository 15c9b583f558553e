import TestScaffold.CommandLine.Arguments
import TestScaffold.Generation.Invocation
import TestScaffold.Json
import TestScaffold.Settings.Load
import TestScaffold.Workspace

/-!
What a command does to the files, what it prints, and whether it fails. Nobody is there to be
asked: an existing test is overwritten when the command is forced, and left alone otherwise.
-/

namespace TestScaffold

/-- What a command is given besides its arguments and the files. -/
structure Environment where
  overrides : Overrides := {}
  userFile : Path
  deriving DecidableEq, Repr

inductive Failure
  | usage
  | settings (cause : SettingsError)
  | generation (cause : GenerationError)
  /-- So many of all tests could not be created. -/
  | incomplete (failed total : Nat)
  | settingsExist
  | file (cause : FileError)
  deriving DecidableEq, Repr

namespace Failure

def usageText : Text :=
  ("Usage: rtgen create-test-file <PATH> [--root <DIR>] [--force] [--dry-run] [--json] [--open]\n" ++
    "       rtgen init [--force]").toList

def message : Failure → Text
  | usage => usageText
  | settings cause => cause.message
  | generation cause => cause.message
  | incomplete failed total =>
    Nat.toDigits 10 failed ++ " of ".toList ++ Nat.toDigits 10 total ++
      " test files could not be created".toList
  | settingsExist =>
    settingsFileName ++ " already exists; pass --force to replace it".toList
  | file cause => cause.message

end Failure

structure Finished where
  files : LocalFiles
  output : Text := []
  /-- The warnings and errors that are told while it runs, one a line. -/
  notes : List Text := []
  failure : Option Failure := none
  deriving DecidableEq, Repr

def Finished.code (f : Finished) : Nat :=
  match f.failure with
  | none => 0
  | some .usage => 2
  | some _ => 1

/-- Where the notes of generations appear. -/
inductive Display
  | all
  /-- Only warnings and errors are shown. -/
  | troubles
  /-- A progress bar is shown instead of them. -/
  | progress
  deriving DecidableEq, Repr

namespace Display

def ofBatch (size : Nat) (json : Bool) : Display :=
  if json then .troubles else if 1 < size then .progress else .all

def printed? (d : Display) (n : Note) : Option Text :=
  match d, n.level with
  | .all, .info => some n.message
  | _, _ => none

/-- What is told of a note as a warning or an error. -/
def told? (d : Display) (n : Note) : Option Text :=
  match d, n.level with
  | .progress, _ | _, .info => none
  | _, .warning => some ("warning: ".toList ++ n.message)
  | _, .error => some ("error: ".toList ++ n.message)

end Display

def FileKind.label : FileKind → Text
  | .markup => "markup".toList
  | .plain => "plain".toList

def ExportStyle.label : ExportStyle → Text
  | .default => "default".toList
  | .named => "named".toList

def Classified.json {α : Type} (value : α → Json) : Classified α → Json
  | matched a => .record [("outcome".toList, .text "matched".toList), ("value".toList, value a)]
  | fallback a => .record [("outcome".toList, .text "fallback".toList), ("value".toList, value a)]

def Outcome.json : Outcome → Json
  | created test => .record [
      ("status".toList, .text "created".toList),
      ("source_path".toList, .text test.source.text),
      ("test_path".toList, .text test.destination.text),
      ("identity".toList, .text test.identity),
      ("kind".toList, .text test.kind.label),
      ("export_style".toList, test.style.json fun style => .text style.label),
      ("mock_count".toList, .number test.mockCount),
      ("source_readable".toList, .truth test.sourceReadable)]
  | skipped destination => .record [
      ("status".toList, .text "skipped".toList),
      ("test_path".toList, .text destination.text)]

def line (t : Text) : Text :=
  t ++ ['\n']

/-- What the tests of a batch print: their notes, or what became of them. -/
def printBatch (display : Display) (json : Bool) (batch : List Invocation) : Text :=
  ((batch.flatMap Invocation.notes).filterMap display.printed?).flatMap line ++
    if json then
      line (Json.pretty 0 (.list ((batch.filterMap Invocation.outcome?).map Outcome.json)))
    else []

/-- The plans of the sources, one after the other, up to the first that fails. -/
def preview (s : Settings) (l : LocalFiles) (root : Path) : List Path → Text × Option Failure
  | [] => ([], none)
  | source :: sources =>
    match plan s l ⟨root, source⟩ with
    | .error e => ([], some (.generation e))
    | .ok p =>
      let (more, failure) := preview s l root sources
      (line ("// ".toList ++ p.destination.text) ++ line p.content ++ more, failure)

structure Selection where
  root : Path
  settings : Settings
  sources : List Path
  deriving DecidableEq, Repr

namespace LocalFiles

def currentDirectory (l : LocalFiles) : Path :=
  ⟨'/' :: Text.join ['/'] l.cwd⟩

/-- The root of the workspace that a path is in: the given one, or the nearest directory with a
marker. Which markers count is for the settings of the user to say. -/
def rootOf (l : LocalFiles) (env : Environment) (given : Option Path) (path : Path) :
    Except Failure Path :=
  match given with
  | some root => .ok (Path.absolute l.currentDirectory root)
  | none => do
    let s ← (l.userSettings env.overrides env.userFile).mapError .settings
    (l.findRoot s.paths.workspaceMarkers path).mapError .generation

/-- The sources that the options name: the sources in a directory, or the path itself. -/
def select (l : LocalFiles) (env : Environment) (o : TestOptions) : Except Failure Selection := do
  let path := Path.absolute l.currentDirectory o.path
  let root ← l.rootOf env o.root path
  let settings ← (l.workspaceSettings env.overrides env.userFile root).mapError .settings
  let sources ←
    if l.isDirectory path then (l.collectSources settings root path).mapError .generation
    else .ok [path]
  .ok { root, settings, sources }

def createSelected (l : LocalFiles) (x : Selection) (flags : List Flag) : Finished :=
  let requests := x.sources.map fun source =>
    { location := ⟨x.root, source⟩, overwrite := flags.contains .force : Request }
  let (world, batch) := generateAll x.settings { store := l } requests
  let display := Display.ofBatch x.sources.length (flags.contains .json)
  let failed := batch.length - (batch.filterMap Invocation.outcome?).length
  { files := world.store
    output := printBatch display (flags.contains .json) batch
    notes := (batch.flatMap Invocation.notes).filterMap display.told?
    failure := if failed = 0 then none else some (.incomplete failed batch.length) }

def createTests (l : LocalFiles) (env : Environment) (o : TestOptions) : Finished :=
  match l.select env o with
  | .error failure => { files := l, failure := some failure }
  | .ok x =>
    if x.sources = [] then
      { files := l, output := line ("No component files found under ".toList ++ o.path.text) }
    else if .dryRun ∈ o.flags then
      let (output, failure) := preview x.settings l x.root x.sources
      { files := l, output, failure }
    else l.createSelected x o.flags

/-- The command that writes the default settings into the current directory. -/
def writeSettings (l : LocalFiles) (force : Bool) : Finished :=
  let file : Path := ⟨settingsFileName⟩
  if l.holds file ∧ ¬ force then { files := l, failure := some .settingsExist }
  else
    match l.writeFile file (Settings.text {}) with
    | .error cause => { files := l, failure := some (.file cause) }
    | .ok files => { files, output := line ("Created ".toList ++ settingsFileName) }

def perform (l : LocalFiles) (env : Environment) : Command → Finished
  | .createTests options => l.createTests env options
  | .writeSettings flags => l.writeSettings (flags.contains .force)

def run (l : LocalFiles) (env : Environment) (arguments : List Text) : Finished :=
  match Command.read arguments with
  | .ok command => l.perform env command
  | .error .help => { files := l, output := line Failure.usageText }
  | .error .usage => { files := l, failure := some .usage }

end LocalFiles

end TestScaffold
