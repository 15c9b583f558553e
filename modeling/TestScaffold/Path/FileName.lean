import TestScaffold.Path.Basic

/-!
The name of a file: the last component of a path, cut at its last dot into a stem and an
extension. A dot at the start of a name does not cut it.
-/

namespace TestScaffold

/-- A file name cut into the part before its last dot and the part after it. -/
structure FileName where
  stem : Text
  extension : Option Text
  deriving DecidableEq, Repr

/-- The name before the last dot, and what follows it; none when the name has no dot. -/
def cutAtLastDot : Text → Option (Text × Text)
  | [] => none
  | c :: t =>
    match cutAtLastDot t with
    | some (stem, extension) => some (c :: stem, extension)
    | none => if c = '.' then some ([], t) else none

theorem eq_of_cutAtLastDot {name stem extension : Text}
    (h : cutAtLastDot name = some (stem, extension)) : name = stem ++ '.' :: extension := by
  induction name generalizing stem with
  | nil => simp [cutAtLastDot] at h
  | cons c t ih =>
    simp only [cutAtLastDot] at h
    split at h
    · rename_i stem' extension' ht
      simp only [Option.some.injEq, Prod.mk.injEq] at h
      obtain ⟨rfl, rfl⟩ := h
      simp [ih ht]
    · split at h
      · rename_i hc
        simp only [Option.some.injEq, Prod.mk.injEq] at h
        obtain ⟨rfl, rfl⟩ := h
        simp [hc]
      · simp at h

namespace FileName

def ofText (name : Text) : FileName :=
  match cutAtLastDot name with
  | none => ⟨name, none⟩
  | some ([], _) => ⟨name, none⟩
  | some (stem, extension) => ⟨stem, some extension⟩

def text (f : FileName) : Text :=
  match f.extension with
  | none => f.stem
  | some extension => f.stem ++ '.' :: extension

theorem text_ofText (name : Text) : (ofText name).text = name := by
  unfold ofText
  split
  · rfl
  · rfl
  · rename_i stem extension _ h
    exact (eq_of_cutAtLastDot h).symm

end FileName

namespace Path

/-- The name that a path ends in; none when it ends in `..`, is the root or is empty. -/
def fileName? (p : Path) : Option Text :=
  p.components.getLast?.bind Component.name?

def file? (p : Path) : Option FileName :=
  p.fileName?.map FileName.ofText

def stem? (p : Path) : Option Text :=
  p.file?.map FileName.stem

/-- The extension of a path; empty when it has none. -/
def extension (p : Path) : Text :=
  (p.file?.bind FileName.extension).getD []

/-- The name of the directory that a path lies in; empty when there is none. -/
def directoryName (p : Path) : Text :=
  (p.parent?.bind fileName?).getD []

/-- The names of a path, the last one without its extension. A stem of dots alone is no name. -/
def namesWithoutExtension (p : Path) : List Text :=
  match p.stem? with
  | none => p.names
  | some stem =>
    p.names.dropLast ++ (if stem = ['.'] ∨ stem = ['.', '.'] then [] else [stem])

end Path

end TestScaffold
