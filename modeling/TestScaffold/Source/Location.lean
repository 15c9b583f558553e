import TestScaffold.Generation.Error
import TestScaffold.Path.FileName
import TestScaffold.Settings
import TestScaffold.Text.LetterCase

/-!
Where a source lies in its workspace, and what follows from that alone: the path of its test,
the path it is imported by, the name of its component and the kind of its test.
-/

namespace TestScaffold

/-- A source and the root of the workspace it is taken to belong to. -/
structure Location where
  root : Path
  source : Path
  deriving DecidableEq, Repr

/-- Whether a source can hold markup. -/
inductive FileKind
  | markup
  | plain
  deriving DecidableEq, Repr

/-- The kind of a source is decided by its extension. -/
def ScanSettings.kindOf (s : ScanSettings) (source : Path) : FileKind :=
  if s.markupExtensions.contains source.extension then .markup else .plain

/-- The specifier without the `../` at its start, however many there are. -/
def dropUpSteps : Text → Text
  | '.' :: '.' :: '/' :: t => dropUpSteps t
  | t => t

/-- The specifier without the steps at its start that make it relative: every `../` when it
starts with one, else a single `./`. -/
def dropRelativeSteps (t : Text) : Text :=
  if t.startsWith "../".toList then dropUpSteps t else (Text.after? "./".toList t).getD t

def forwardSlashes (t : Text) : Text :=
  t.map fun c => if c = '\\' then '/' else c

/-- The path that names a relative specifier from the root of the sources. -/
def PathSettings.aliasPath (s : PathSettings) (specifier : Text) : Text :=
  s.aliasPrefix ++ dropRelativeSteps (forwardSlashes specifier)

/-- A path in the workspace without the directory of the sources. -/
def PathSettings.withoutSourceRoot (s : PathSettings) (relative : Path) : Path :=
  match s.sourceRoot with
  | some root => (relative.under? ⟨root⟩).getD relative
  | none => relative

/-- The path by which a test imports the source at this path in the workspace. -/
def PathSettings.importPath (s : PathSettings) (relative : Path) : Text :=
  s.aliasPath (Text.join ['/'] (s.withoutSourceRoot relative).namesWithoutExtension)

def testName (source : FileName) : Text :=
  FileName.text ⟨source.stem ++ ".test".toList, source.extension⟩

namespace Location

def relative (l : Location) : Except GenerationError Path :=
  match l.source.under? l.root with
  | none => .error (.outsideWorkspace l.source l.root)
  | some path =>
    if .parent ∈ path.components then .error (.outsideWorkspace l.source l.root)
    else if path.fileName?.isNone then .error (.notAFile l.source)
    else .ok path

/-- The directory of the tests of the sources that lie beside the one at `relative`. -/
def testDirectory (l : Location) (s : PathSettings) (relative : Path) : Path :=
  let top := l.root.join ⟨s.testsDir⟩
  match (s.withoutSourceRoot relative).parent? with
  | some directory => if directory.text = [] then top else top.join directory
  | none => top

def testPath (l : Location) (s : PathSettings) : Except GenerationError Path := do
  let relative ← l.relative
  let name := (relative.file?.map testName).getD []
  return (l.testDirectory s relative).child name

end Location

/-- The name of the component in a source. A file that stands for a route is named for its
directory. -/
def identityOf (source : Path) : Text :=
  let stem := source.stem?.getD []
  if stem = "page".toList ∨ stem = "layout".toList then
    source.directoryName.capitalize ++ "Page".toList
  else stem.capitalize

end TestScaffold
