import TestScaffold.Generation.Error

/-!
A disk: directories and files, each at its place, which is the list of names that lead to it
from the root. The root is a directory that is always there.
-/

namespace TestScaffold

/-- What a file holds: text, or bytes that are not the encoding of any text. -/
inductive Content
  | text (text : Text)
  | binary (bytes : List UInt8)
  deriving DecidableEq, Repr

namespace Content

def ofBytes (bytes : List UInt8) : Content :=
  match String.fromUTF8? ⟨bytes.toArray⟩ with
  | some s => text s.toList
  | none => binary bytes

def text? : Content → Option Text
  | text t => some t
  | binary _ => none

def withoutReturn (line : Text) : Text :=
  if line.getLast? = some '\r' then line.dropLast else line

/-- The lines of the content, up to the first one that is not text. -/
def lines (content : Content) : List Text :=
  let found : List (Option Text) := match content with
    | text t => (Text.fields t '\n').map some
    | binary bytes => (List.splitOn 10 bytes).map fun line => (ofBytes line).text?
  let ended := found.dropLast.map (Option.map withoutReturn) ++ found.getLast?.toList
  (ended.takeWhile Option.isSome).filterMap id

end Content

inductive Entry
  | directory
  | file (content : Content)
  deriving DecidableEq, Repr

/-- The names that lead from the root to an entry. -/
abbrev Place := List Text

structure Disk where
  entries : List (Place × Entry) := []
  deriving DecidableEq, Repr

namespace Disk

def get? (d : Disk) (place : Place) : Option Entry :=
  if place = [] then some .directory else d.entries.lookup place

def put (d : Disk) (place : Place) (entry : Entry) : Disk :=
  ⟨(place, entry) :: d.entries.filter (·.1 ≠ place)⟩

/-- The root stays a directory whatever is put there; elsewhere the new entry is found. -/
theorem get?_put (d : Disk) (place other : Place) (entry : Entry) :
    (d.put place entry).get? other =
      if other = [] then some .directory else if other = place then some entry else d.get? other := by
  unfold get? put
  by_cases hroot : other = []
  · simp [hroot]
  by_cases hplace : other = place
  · subst hplace
    simp [hroot]
  have hkept : (d.entries.filter (·.1 ≠ place)).lookup other = d.entries.lookup other := by
    induction d.entries with
    | nil => rfl
    | cons x xs ih =>
      obtain ⟨key, value⟩ := x
      by_cases hkey : key = place
      · have hne : (other == key) = false := by simpa [hkey] using hplace
        rw [List.filter_cons_of_neg (by simp [hkey]), List.lookup_cons, hne]
        exact ih
      · rw [List.filter_cons_of_pos (by simp [hkey]), List.lookup_cons, List.lookup_cons, ih]
  have hne : (other == place) = false := by simpa using hplace
  rw [if_neg hroot, if_neg hroot, if_neg hplace, List.lookup_cons, hne, if_neg hroot]
  exact hkept

/-- The disk with all the directories on the way to a place that are not there. -/
def withDirectories (d : Disk) (place : Place) : Disk :=
  (List.range place.length).foldl
    (fun d n =>
      let above := place.take (n + 1)
      if (d.get? above).isNone then d.put above .directory else d) d

def plant (d : Disk) (place : Place) (entry : Entry) : Disk :=
  (d.withDirectories place.dropLast).put place entry

def content? (d : Disk) (place : Place) : Option Content :=
  match d.get? place with
  | some (.file content) => some content
  | _ => none

/-- The files of a disk whose content is not what it was before, with their places. -/
def changedFiles (before after : Disk) : List (Place × Content) :=
  after.entries.filterMap fun (place, entry) =>
    match entry with
    | .directory => none
    | .file content =>
      if before.content? place = some content then none else some (place, content)

/-- The place that the segments lead to from `place`, where `entry` is, and what is there. Every
entry on the way has to be a directory; the root is its own directory above. -/
def follow (d : Disk) : Place → Entry → List Text → Except FileError (Place × Entry)
  | place, entry, [] => .ok (place, entry)
  | _, .file _, _ :: _ => .error .notADirectory
  | place, .directory, segment :: segments =>
    if segment = [] ∨ segment = ['.'] then d.follow place .directory segments
    else if segment = ['.', '.'] then d.follow place.dropLast .directory segments
    else
      match d.get? (place ++ [segment]) with
      | none => .error .notFound
      | some entry => d.follow (place ++ [segment]) entry segments

end Disk

end TestScaffold
