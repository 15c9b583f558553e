import TestScaffold.Disk.Basic
import TestScaffold.Ignore.Rule

/-!
Which entries below a directory are visited. An entry is judged by the ignore files of the
directories above it; a directory that is passed over hides everything in it.
-/

namespace TestScaffold

namespace Disk

def rulesAt (d : Disk) (place : Place) : List IgnoreRule :=
  match d.content? place with
  | some content => IgnoreRule.ofLines content.lines
  | none => []

def isRepository (d : Disk) (directory : Place) : Bool :=
  (d.get? (directory ++ [".git".toList])).isSome

/-- The directories above a place, nearest first. -/
def placesAbove (place : Place) : List Place :=
  (List.range place.length).reverse.map (place.take ·)

/-- What the ignore files with this name, relative to the given directories, say of a place. The
nearest file that says something counts. -/
def judgeBy (d : Disk) (name : Place) (directories : List Place) (place : Place)
    (isDirectory : Bool) : Option Verdict :=
  directories.findSome? fun directory =>
    IgnoreRule.judge (d.rulesAt (directory ++ name))
      (Text.join ['/'] (place.drop directory.length)) isDirectory

/-- The given directories down to the first one that is the top of a repository; none when there
is no such directory. -/
def inRepository (d : Disk) : List Place → List Place
  | [] => []
  | directory :: others =>
    -- What lies above the top of the nearest repository has no say in it.
    if d.isRepository directory then [directory]
    else
      match d.inRepository others with
      | [] => []
      | above => directory :: above

/-- What the ignore files say of a place. Files of a repository count only inside one, and those
for any tool count before them. -/
def judge (d : Disk) (place : Place) (isDirectory : Bool) : Option Verdict :=
  let above := placesAbove place
  let repository := d.inRepository above
  (d.judgeBy [".ignore".toList] above place isDirectory)
    <|> (d.judgeBy [".gitignore".toList] repository place isDirectory)
    <|> (d.judgeBy [".git".toList, "info".toList, "exclude".toList] repository place isDirectory)

/-- Whether an entry is visited once its directory is. Hidden entries are visited only when a
rule keeps them. -/
def admits (d : Disk) (place : Place) (isDirectory : Bool) : Bool :=
  match d.judge place isDirectory with
  | some .ignore => false
  | some .keep => true
  | none => !(place.getLast?.any fun name => name.head? == some '.')

/-- Whether a file below `top` is visited: every step down to it is admitted. -/
def visits (d : Disk) (top file : Place) : Bool :=
  top.isPrefixOf file && top.length < file.length &&
    (List.range (file.length - top.length)).all fun n =>
      let length := top.length + n + 1
      d.admits (file.take length) (length < file.length)

def visitedFiles (d : Disk) (top : Place) : List Place :=
  d.entries.filterMap fun (place, entry) =>
    match entry with
    | .directory => none
    | .file _ => if d.visits top place then some place else none

end Disk

end TestScaffold
