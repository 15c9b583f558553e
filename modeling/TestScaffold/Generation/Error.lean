import TestScaffold.Path.Basic

/-!
Why a file could not be read or written, and why no test was generated.
-/

namespace TestScaffold

inductive FileError
  /-- The path, or a directory on the way to it, is not on the disk. -/
  | notFound
  /-- A file stands where the path needs a directory. -/
  | notADirectory
  | isADirectory
  /-- A file stands where a directory is to be made. -/
  | alreadyExists
  | notText
  /-- The store has no such file. -/
  | missing
  /-- The store has the file, but does not give its content. -/
  | unreadable
  /-- The store does not take writes. -/
  | readOnly
  deriving DecidableEq, Repr

def FileError.message : FileError → Text
  | notFound => "No such file or directory (os error 2)".toList
  | notADirectory => "Not a directory (os error 20)".toList
  | isADirectory => "Is a directory (os error 21)".toList
  | alreadyExists => "File exists (os error 17)".toList
  | notText => "stream did not contain valid UTF-8".toList
  | missing => "no such file".toList
  | unreadable => "unreadable".toList
  | readOnly => "read-only".toList

inductive GenerationError
  | noInput
  /-- The source does not lie under the root, or its path leaves the root on the way. -/
  | outsideWorkspace (source root : Path)
  /-- No directory above the path is marked as a root. -/
  | noWorkspace (path : Path)
  /-- The path is the root itself. -/
  | notAFile (path : Path)
  /-- Another invocation holds the destination. -/
  | inFlight (destination : Path)
  | write (destination : Path) (cause : FileError)
  /-- Sources were to be collected below something that is not a directory. -/
  | walk (path : Path)
  deriving DecidableEq, Repr

namespace GenerationError

def message : GenerationError → Text
  | noInput => "No file selected".toList
  | outsideWorkspace source root =>
    "File is not in a workspace: ".toList ++ source.text ++ " is outside ".toList ++ root.text
  | noWorkspace path =>
    "File is not in a workspace: no root marker found above ".toList ++ path.text
  | notAFile path => "Not a source file: ".toList ++ path.text
  | inFlight destination => "Test file is already being generated: ".toList ++ destination.text
  | write destination cause =>
    "Failed to write ".toList ++ destination.text ++ ": ".toList ++ cause.message
  | walk path => "Failed to walk ".toList ++ path.text ++ ": not a directory".toList

/-- Whether the request is at fault, and not the attempt to fulfil it. -/
def isInputError : GenerationError → Bool
  | noInput | outsideWorkspace _ _ | noWorkspace _ | notAFile _ => true
  | inFlight _ | write _ _ | walk _ => false

end GenerationError

end TestScaffold
