import TestScaffold.CommandLine.Run

/-!
The program. Standard input names the files that it may look at, one absolute path a line: the
sources, the settings, the markers of the root and the files that say what is ignored. What the
command changes is written back to them.
-/

namespace TestScaffold

def readVariable (name : String) : IO (Option Text) := do
  return (← IO.getEnv name).map String.toList

/-- The directory where programs keep the settings of the user. -/
def configDirectory : IO Path := do
  match ← readVariable "XDG_CONFIG_HOME" with
  | some directory => return ⟨directory⟩
  | none => return Path.child ⟨(← readVariable "HOME").getD []⟩ ".config".toList

def environment : IO Environment := do
  return {
    overrides := {
      testsDir := ← readVariable "RTGEN_TESTS_DIR"
      aliasPrefix := ← readVariable "RTGEN_ALIAS_PREFIX"
      sourceRoot := ← readVariable "RTGEN_SOURCE_ROOT" }
    userFile := userSettingsFile (← configDirectory) }

/-- The disk with one more of the files that there are. -/
def loadFile (disk : Disk) (file : String) : IO Disk := do
  let bytes ← IO.FS.readBinFile file
  return disk.plant (Path.mk file.toList).names (.file (Content.ofBytes bytes.toList))

/-- Writes a changed file, and makes the directories that lead to it. -/
def storeFile (place : Place) (content : Content) : IO Unit := do
  let pathOf (place : Place) : String := String.ofList ('/' :: Text.join ['/'] place)
  IO.FS.createDirAll (pathOf place.dropLast)
  match content with
  | .text text => IO.FS.writeFile (pathOf place) (String.ofList text)
  | .binary bytes => IO.FS.writeBinFile (pathOf place) ⟨bytes.toArray⟩

/-- Carries out the arguments on the named files, prints, and gives the exit code. -/
def serve (arguments : List String) : IO UInt32 := do
  let cwd := (Path.mk ((← readVariable "PWD").getD ['/'])).names
  let named := (← (← IO.getStdin).lines).toList.filter (· ≠ "")
  let disk ← named.foldlM loadFile {}
  let files : LocalFiles := { disk := disk.withDirectories cwd, cwd }
  let finished := files.run (← environment) (arguments.map String.toList)
  for (place, content) in disk.changedFiles finished.files.disk do
    storeFile place content
  IO.print (String.ofList finished.output)
  for note in finished.notes do
    IO.eprintln (String.ofList note)
  match finished.failure with
  | some failure => IO.eprintln ("Error: " ++ String.ofList failure.message)
  | none => pure ()
  return finished.code.toUInt32

end TestScaffold

def main (arguments : List String) : IO UInt32 :=
  TestScaffold.serve arguments
