import TestScaffold.Disk.Local
import TestScaffold.Generation.Error
import TestScaffold.Ignore.Walk
import TestScaffold.Settings

/-!
Finding the root of a workspace above a path and the sources below a directory.
-/

namespace TestScaffold

namespace LocalFiles

def isMarked (l : LocalFiles) (markers : List Text) (directory : Path) : Bool :=
  markers.any fun marker => l.holds (directory.child marker)

/-- The nearest marked directory above a path, the path itself included when it is a directory. -/
def findRoot (l : LocalFiles) (markers : List Text) (p : Path) : Except GenerationError Path :=
  let candidates := if l.isDirectory p then p.ancestors else p.parents
  match candidates.find? (l.isMarked markers) with
  | some root => .ok root
  | none => .error (.noWorkspace p)

/-- Whether a file of this name is a source at all: not a declaration file and not a test. -/
def isSourceName (name : Text) : Bool :=
  !(name.endsWith ".d.ts".toList || Text.occursIn ".test.".toList name ||
    Text.occursIn ".spec.".toList name)

def isSource (s : Settings) (root file : Path) : Bool :=
  !file.startsWith (root.join ⟨s.paths.testsDir⟩) &&
    s.scan.sourceExtensions.contains file.extension &&
    isSourceName (file.fileName?.getD [])

/-- The sources below a directory, in the order of their paths. Ignored files, hidden files and
everything in the directory of the tests are left out. -/
def collectSources (l : LocalFiles) (s : Settings) (root directory : Path) :
    Except GenerationError (List Path) :=
  match l.find directory with
  | .ok (top, .directory) =>
    let files := (l.disk.visitedFiles top).map fun place =>
      (place.drop top.length).foldl Path.child directory
    .ok ((files.filter (isSource s root)).mergeSort fun p q => (Path.order p q).isLE)
  | _ => .error (.walk directory)

end LocalFiles

end TestScaffold
