import TestScaffold.Generation.InFlight
import TestScaffold.Generation.Plan
import TestScaffold.Generation.Store

/-!
One generation as a run of steps. Between two steps other generations may take steps of their
own, so a step does at most one thing to what they share: claim the destination, look whether
it exists, ask whether it may be overwritten, read the source, write the test, release the
destination. Every step brings a generation nearer to its end, so that one which nothing
interrupts comes to it. A batch is such generations one after the other.
-/

namespace TestScaffold

structure Request where
  location : Location
  /-- The answer to the question whether an existing test may be overwritten. -/
  overwrite : Bool := false
  deriving DecidableEq, Repr

inductive NoteLevel
  | info
  | warning
  | error
  deriving DecidableEq, Repr

/-- What is told to whoever asked for the test. -/
structure Note where
  level : NoteLevel
  message : Text
  deriving DecidableEq, Repr

abbrev GenerationResult := Except GenerationError Outcome

/-- What a generation does next. From `checking` to `leaving` it holds its destination. -/
inductive Stage
  | claiming
  | checking (destination : Path)
  | asking (destination : Path)
  | reading (destination : Path)
  | writing (plan : TestPlan)
  | leaving (destination : Path) (result : GenerationResult)
  | finished (result : GenerationResult)

/-- A generation under way: what it does next, whom it has asked and what it has told. -/
structure Invocation where
  request : Request
  stage : Stage := .claiming
  /-- The destinations it has asked about. -/
  prompts : List Path := []
  notes : List Note := []

/-- What all generations share. -/
structure World (σ : Type) where
  store : σ
  inFlight : InFlight := .empty

def Request.destination (s : Settings) (r : Request) : Except GenerationError Path :=
  if r.location.source.text = [] then .error .noInput else r.location.testPath s.paths

def GenerationError.note (e : GenerationError) : Note :=
  ⟨.error, if e.isInputError then e.message else "Error creating test file: ".toList ++ e.message⟩

namespace Invocation

def tell (i : Invocation) (level : NoteLevel) (message : Text) : Invocation :=
  { i with notes := i.notes ++ [⟨level, message⟩] }

/-- The generation at its end; a failure is told. -/
def finish (i : Invocation) (result : GenerationResult) : Invocation :=
  match result with
  | .ok _ => { i with stage := .finished result }
  | .error e => { i with stage := .finished result, notes := i.notes ++ [e.note] }

def result? (i : Invocation) : Option GenerationResult :=
  match i.stage with
  | .finished result => some result
  | _ => none

/-- The generation once its source has been read, or could not be. -/
def planned (s : Settings) (i : Invocation) (destination relative : Path) (text : Option Text) :
    Invocation :=
  let source := i.request.location.source
  let i := if text.isSome then i else
    i.tell .warning
      ("Could not read ".toList ++ source.text ++ ", generating a test without mocks".toList)
  { i with stage := .writing (TestPlan.ofText s source destination relative text) }

variable {σ : Type} [FileStore σ]

def step (s : Settings) (w : World σ) (i : Invocation) : World σ × Invocation :=
  match i.stage with
  | .claiming =>
    match i.request.destination s with
    | .error e => (w, i.finish (.error e))
    | .ok destination =>
      match w.inFlight.claim? destination with
      | none => (w, i.finish (.error (.inFlight destination)))
      | some inFlight => ({ w with inFlight }, { i with stage := .checking destination })
  | .checking destination =>
    (w, { i with
      stage := if FileStore.holds w.store destination then .asking destination
        else .reading destination })
  | .asking destination =>
    -- Whatever the answer, it has been asked.
    let i := { i with prompts := i.prompts ++ [destination] }
    if i.request.overwrite then (w, { i with stage := .reading destination })
    else
      let i := i.tell .info ("Test file already exists: ".toList ++ destination.text)
      (w, { i with stage := .leaving destination (.ok (.skipped destination)) })
  | .reading destination =>
    match i.request.location.relative with
    | .error e => (w, { i with stage := .leaving destination (.error e) })
    | .ok relative =>
      let text := (FileStore.read w.store i.request.location.source).toOption
      (w, i.planned s destination relative text)
  | .writing plan =>
    match FileStore.write w.store plan.destination plan.content with
    | (store, .error e) =>
      ({ w with store },
        { i with stage := .leaving plan.destination (.error (.write plan.destination e)) })
    | (store, .ok ()) =>
      let i := i.tell .info ("Test file created: ".toList ++ plan.destination.text)
      ({ w with store },
        { i with stage := .leaving plan.destination (.ok (.created plan.summary)) })
  | .leaving destination result =>
    ({ w with inFlight := w.inFlight.release destination }, i.finish result)
  | .finished _ => (w, i)

/-- A number of steps; a generation that has ended takes no more. -/
def steps (s : Settings) : Nat → World σ × Invocation → World σ × Invocation
  | 0, x => x
  | n + 1, x => steps s n (step s x.1 x.2)

def stepLimit : Nat := 6

/-- A generation that nothing interrupts. -/
def run (s : Settings) (w : World σ) (i : Invocation) : World σ × Invocation :=
  steps s stepLimit (w, i)

def isAtWrite (i : Invocation) : Bool :=
  match i.stage with
  | .writing _ => true
  | _ => false

/-- A generation up to its write, or to its end when it comes to none. -/
def stepsToWrite (s : Settings) : Nat → World σ × Invocation → World σ × Invocation
  | 0, x => x
  | n + 1, x => if x.2.isAtWrite then x else stepsToWrite s n (step s x.1 x.2)

/-- A generation that is stopped before its write. -/
def runToWrite (s : Settings) (w : World σ) (i : Invocation) : World σ × Invocation :=
  stepsToWrite s stepLimit (w, i)

/-- How many steps a generation has before it at the most. -/
def stepsLeft (i : Invocation) : Nat :=
  match i.stage with
  | .claiming => 6
  | .checking _ => 5
  | .asking _ => 4
  | .reading _ => 3
  | .writing _ => 2
  | .leaving _ _ => 1
  | .finished _ => 0

theorem stepsLeft_finish (i : Invocation) (result : GenerationResult) :
    (i.finish result).stepsLeft = 0 := by
  cases result <;> rfl

theorem stepsLeft_planned (s : Settings) (i : Invocation) (destination relative : Path)
    (text : Option Text) : (i.planned s destination relative text).stepsLeft = 2 :=
  rfl

/-- Every step brings a generation nearer to its end. -/
theorem stepsLeft_step_le (s : Settings) (w : World σ) (i : Invocation) :
    (step s w i).2.stepsLeft ≤ i.stepsLeft - 1 := by
  unfold step
  cases hstage : i.stage with
  | claiming =>
    cases i.request.destination s with
    | error e => simp [stepsLeft_finish]
    | ok destination =>
      cases hclaim : w.inFlight.claim? destination with
      | none => simp [hclaim, stepsLeft_finish]
      | some inFlight => simp [hclaim, stepsLeft, hstage]
  | checking destination =>
    by_cases hthere : FileStore.holds w.store destination = true
    · simp [hthere, stepsLeft, hstage]
    · simp [hthere, stepsLeft, hstage]
  | asking destination =>
    by_cases hanswer : i.request.overwrite = true
    · simp [hanswer, stepsLeft, hstage]
    · simp [hanswer, stepsLeft, hstage]
  | reading destination =>
    cases i.request.location.relative with
    | error e => simp [stepsLeft, hstage]
    | ok relative =>
      dsimp only
      rw [stepsLeft_planned]
      simp [stepsLeft, hstage]
  | writing plan =>
    cases hwrite : FileStore.write w.store plan.destination plan.content with
    | mk store result =>
      cases result with
      | error e => simp [hwrite, stepsLeft, hstage]
      | ok _ => simp [hwrite, stepsLeft, hstage]
  | leaving destination result => simp [stepsLeft_finish]
  | finished result => simp [stepsLeft, hstage]

theorem stepsLeft_steps_le (s : Settings) (n : Nat) (x : World σ × Invocation) :
    (steps s n x).2.stepsLeft ≤ x.2.stepsLeft - n := by
  induction n generalizing x with
  | zero => exact Nat.le_refl _
  | succ n ih =>
    have hstep := stepsLeft_step_le s x.1 x.2
    have hrest := ih (step s x.1 x.2)
    unfold steps
    omega

/-- A generation that nothing interrupts comes to its end. -/
theorem stepsLeft_run (s : Settings) (w : World σ) (i : Invocation) :
    (run s w i).2.stepsLeft = 0 := by
  have hsteps := stepsLeft_steps_le s stepLimit (w, i)
  have hlimit : i.stepsLeft ≤ stepLimit := by
    unfold stepsLeft stepLimit
    split <;> omega
  unfold run
  dsimp only at hsteps
  omega

end Invocation

section

variable {σ : Type} [FileStore σ]

/-- The test of a request, generated without interruption. -/
def generate (s : Settings) (w : World σ) (r : Request) : World σ × Invocation :=
  Invocation.run s w { request := r }

/-- The tests of several requests, one after the other. A failure of one does not keep the others
from being generated. -/
def generateAll (s : Settings) : World σ → List Request → World σ × List Invocation
  | w, [] => (w, [])
  | w, r :: requests =>
    let (w, i) := generate s w r
    let (w, others) := generateAll s w requests
    (w, i :: others)

theorem length_generateAll (s : Settings) (w : World σ) (requests : List Request) :
    (generateAll s w requests).2.length = requests.length := by
  induction requests generalizing w with
  | nil => rfl
  | cons r requests ih => simp [generateAll, ih]

/-- The plan for a source. Nothing is written and nothing is claimed. -/
def plan (s : Settings) (store : σ) (l : Location) : Except GenerationError TestPlan := do
  let destination ← l.testPath s.paths
  let relative ← l.relative
  let text := (FileStore.read store l.source).toOption
  return TestPlan.ofText s l.source destination relative text

end

/-- What a generation came to, if it did not fail. -/
def Invocation.outcome? (i : Invocation) : Option Outcome :=
  i.result?.bind Except.toOption

end TestScaffold
