import TestScaffold.Disk.Basic
import TestScaffold.Generation.Store
import TestScaffold.Path.FileName

/-!
A disk as it is used from a current directory: looking up paths, reading files, making
directories and writing files. Writing a test makes the directories that are missing.
-/

namespace TestScaffold

structure LocalFiles where
  disk : Disk
  cwd : Place := []
  deriving DecidableEq, Repr

/-- Where a new entry is to be made: its directory, its name, and whether its path ends in a
slash. -/
structure Site where
  directory : Place
  name : Text
  slashAfter : Bool
  deriving DecidableEq, Repr

namespace LocalFiles

def start (l : LocalFiles) (p : Path) : Place :=
  if p.isAbsolute then [] else l.cwd

def find (l : LocalFiles) (p : Path) : Except FileError (Place × Entry) :=
  if p.text = [] then .error .notFound
  else l.disk.follow (l.start p) .directory (Text.fields p.text '/')

def holds (l : LocalFiles) (p : Path) : Bool :=
  (l.find p).toBool

def isDirectory (l : LocalFiles) (p : Path) : Bool :=
  match l.find p with
  | .ok (_, .directory) => true
  | _ => false

def content (l : LocalFiles) (p : Path) : Except FileError Content := do
  match ← l.find p with
  | (_, .directory) => .error .isADirectory
  | (_, .file content) => .ok content

def read (l : LocalFiles) (p : Path) : Except FileError Text := do
  match ← l.content p with
  | .text text => .ok text
  | .binary _ => .error .notText

/-- Where an entry of this path would be made; none when the path ends in no name of its own. -/
def site? (l : LocalFiles) (p : Path) : Except FileError (Option Site) :=
  let segments := Text.fields p.text '/'
  let named := (segments.reverse.dropWhile (· = [])).reverse
  match named.getLast? with
  | none => if p.text = [] then .error .notFound else .ok none
  | some name => do
    match ← l.disk.follow (l.start p) .directory named.dropLast with
    | (_, .file _) => .error .notADirectory
    | (directory, .directory) =>
      -- Dots name a directory that is there already.
      if name = ['.'] ∨ name = ['.', '.'] then return none
      else return some ⟨directory, name, decide (named.length < segments.length)⟩

def makeDirectory (l : LocalFiles) (p : Path) : Except FileError LocalFiles := do
  match ← l.site? p with
  | none => .error .alreadyExists
  | some site =>
    let place := site.directory ++ [site.name]
    if (l.disk.get? place).isSome then .error .alreadyExists
    else return { l with disk := l.disk.put place .directory }

/-- The files after the first of the paths, each of which lies above the one before, is made a
directory, together with those above it that are missing. Without a path nothing is made. -/
def makeDirectories (l : LocalFiles) : List Path → LocalFiles × Except FileError Unit
  | [] => (l, .ok ())
  | p :: above =>
    if p.text = [] then (l, .ok ())
    else
      match l.makeDirectory p with
      | .ok made => (made, .ok ())
      | .error .notFound =>
        match makeDirectories l above with
        | (l, .error e) => (l, .error e)
        | (l, .ok ()) =>
          -- With the directories above made, a path with `..` may lead to one that is there.
          match l.makeDirectory p with
          | .ok made => (made, .ok ())
          | .error e => (l, if l.isDirectory p then .ok () else .error e)
      | .error e => (l, if l.isDirectory p then .ok () else .error e)

/-- The files after a file is written, in a directory that has to be there. -/
def writeFile (l : LocalFiles) (p : Path) (text : Text) : Except FileError LocalFiles := do
  match ← l.site? p with
  | none => .error .isADirectory
  | some site =>
    let place := site.directory ++ [site.name]
    if site.slashAfter ∨ l.disk.get? place = some .directory then .error .isADirectory
    else return { l with disk := l.disk.put place (.file (.text text)) }

/-- The files after an attempt to write a file and to make the directories that lead to it. -/
def write (l : LocalFiles) (p : Path) (text : Text) : LocalFiles × Except FileError Unit :=
  match l.makeDirectories p.parents with
  | (l, .error e) => (l, .error e)
  | (l, .ok ()) =>
    match l.writeFile p text with
    | .ok l => (l, .ok ())
    | .error e => (l, .error e)

instance : FileStore LocalFiles where
  read := read
  holds := holds
  write := write

end LocalFiles

end TestScaffold
