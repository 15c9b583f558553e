import TestScaffold.Generation.Invocation

/-!
A session: one generator with its settings, its files, the destinations that are claimed, and
the claims that are kept by name. Commands are carried out one after the other.
-/

namespace TestScaffold

structure Session (σ : Type) where
  settings : Settings
  world : World (Switchable σ)
  /-- The claims that are kept, newest first. -/
  guards : List (Text × Path) := []

namespace Session

inductive Command
  | generate (request : Request)
  | plan (location : Location)
  /-- The first generation is stopped before its write until the second has ended. -/
  | concurrent (first second : Request)
  | claim (path : Path) (guard : Text)
  | release (guard : Text)
  | isHeld (path : Path)
  | setReadOnly (value : Bool)
  | read (path : Path)
  | holds (path : Path)
  | write (path : Path) (text : Text)

/-- A generation that has ended, and what its destination held then. -/
structure Generated where
  invocation : Invocation
  content : Option Text

inductive Reply
  | generated (one : Generated)
  | planned (result : Except GenerationError TestPlan)
  | concurrent (first second : Generated)
  | truth (value : Bool)
  | done
  | text (value : Text)
  | failed (error : FileError)

variable {σ : Type} [FileStore σ]

/-- What the destination of an ended generation holds; nothing after a failure. -/
def report (w : World (Switchable σ)) (i : Invocation) : Generated :=
  match i.result? with
  | some (.ok outcome) => ⟨i, (FileStore.read w.store outcome.destination).toOption⟩
  | _ => ⟨i, none⟩

/-- The session after the claim of this name, if any, is given up. -/
def dropGuard (s : Session σ) (guard : Text) : Session σ :=
  match s.guards.lookup guard with
  | none => s
  | some path =>
    { s with
      world := { s.world with inFlight := s.world.inFlight.release path }
      guards := s.guards.filter (·.1 ≠ guard) }

def perform (s : Session σ) : Command → Session σ × Reply
  | .generate request =>
    let (world, i) := TestScaffold.generate s.settings s.world request
    ({ s with world }, .generated (report world i))
  | .plan location => (s, .planned (TestScaffold.plan s.settings s.world.store location))
  | .concurrent first second =>
    let (world, a) := Invocation.runToWrite s.settings s.world { request := first }
    let stopped := report world a
    let (world, b) := TestScaffold.generate s.settings world second
    let ended := report world b
    if a.isAtWrite then
      let (world, a) := Invocation.run s.settings world a
      ({ s with world }, .concurrent (report world a) ended)
    else ({ s with world }, .concurrent stopped ended)
  | .claim path guard =>
    match s.world.inFlight.claim? path with
    | none => (s, .truth false)
    | some inFlight =>
      -- A claim kept under this name is given up only now.
      let s := dropGuard { s with world := { s.world with inFlight } } guard
      ({ s with guards := (guard, path) :: s.guards }, .truth true)
  | .release guard => (s.dropGuard guard, .truth (s.guards.lookup guard).isSome)
  | .isHeld path => (s, .truth (s.world.inFlight.isHeld path))
  | .setReadOnly value =>
    ({ s with world := { s.world with store := { s.world.store with readOnly := value } } }, .done)
  | .read path =>
    match FileStore.read s.world.store path with
    | .ok text => (s, .text text)
    | .error e => (s, .failed e)
  | .holds path => (s, .truth (FileStore.holds s.world.store path))
  | .write path text =>
    match FileStore.write s.world.store path text with
    | (store, .ok ()) => ({ s with world := { s.world with store } }, .done)
    | (store, .error e) => ({ s with world := { s.world with store } }, .failed e)

def performAll (s : Session σ) : List Command → Session σ × List Reply
  | [] => (s, [])
  | command :: commands =>
    let (s, reply) := s.perform command
    let (s, replies) := performAll s commands
    (s, reply :: replies)

end Session

end TestScaffold
