import TestScaffold.Generation.Error

/-!
Where sources are read from and tests are written to. A store in memory is what it holds under
each path, taken by components; it has files only.
-/

namespace TestScaffold

/-- What generation asks of the place where the files are. -/
class FileStore (σ : Type) where
  read : σ → Path → Except FileError Text
  holds : σ → Path → Bool
  /-- The store after an attempt to write a file, and how the attempt went. -/
  write : σ → Path → Text → σ × Except FileError Unit

structure MemoryStore where
  /-- What is under a path: nothing, or a file whose text can be read or not. -/
  entry : List Path.Component → Option (Option Text)

namespace MemoryStore

def empty : MemoryStore :=
  ⟨fun _ => none⟩

/-- The store with this file, read or not, in the place of what was under its path. -/
def put (m : MemoryStore) (path : Path) (content : Option Text) : MemoryStore :=
  ⟨fun key => if key = path.components then some content else m.entry key⟩

def read (m : MemoryStore) (path : Path) : Except FileError Text :=
  match m.entry path.components with
  | none => .error .missing
  | some none => .error .unreadable
  | some (some text) => .ok text

def holds (m : MemoryStore) (path : Path) : Bool :=
  (m.entry path.components).isSome

instance : FileStore MemoryStore where
  read := read
  holds := holds
  write m path text := (m.put path (some text), .ok ())

/-- A path is looked up by its components. -/
theorem entry_put (m : MemoryStore) (path : Path) (content : Option Text)
    (key : List Path.Component) :
    (m.put path content).entry key =
      if key = path.components then some content else m.entry key := rfl

end MemoryStore

/-- A store whose writes can be switched off. -/
structure Switchable (σ : Type) where
  store : σ
  readOnly : Bool := false

instance {σ : Type} [FileStore σ] : FileStore (Switchable σ) where
  read s path := FileStore.read s.store path
  holds s path := FileStore.holds s.store path
  write s path text :=
    if s.readOnly then (s, .error .readOnly)
    else
      let (store, result) := FileStore.write s.store path text
      ({ s with store }, result)

end TestScaffold
