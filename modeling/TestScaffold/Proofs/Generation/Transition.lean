import TestScaffold.Generation.Invocation

/-!
What one step of a generation can be, said once. The invariants of runs are derived from the
ways a step can go and from what each of them does to the claims and to the files.
-/

namespace TestScaffold

/-- What a step asks of the files, or of whoever wanted the test. -/
inductive Access
  | look (path : Path)
  | prompt (path : Path) (answer : Bool)
  | read (path : Path)
  | write (path : Path) (content : Text)
  deriving DecidableEq, Repr

def Access.question? : Access → Option Path
  | .prompt path _ => some path
  | _ => none

def Access.effect {σ : Type} [FileStore σ] (store : σ) : Access → σ
  | .write path content => (FileStore.write store path content).1
  | _ => store

namespace Invocation

/-- The destination that a generation holds, from its claim to its end. -/
def held? (i : Invocation) : Option Path :=
  match i.stage with
  | .checking destination | .asking destination | .reading destination
  | .leaving destination _ => some destination
  | .writing plan => some plan.destination
  | .claiming | .finished _ => none

def access? (i : Invocation) : Option Access :=
  match i.stage with
  | .checking destination => some (.look destination)
  | .asking destination => some (.prompt destination i.request.overwrite)
  | .reading _ =>
    match i.request.location.relative with
    | .error _ => none
    | .ok _ => some (.read i.request.location.source)
  | .writing plan => some (.write plan.destination plan.content)
  | .claiming | .leaving _ _ | .finished _ => none

/-- The result of a generation once it is settled, be the destination released or not. -/
def settled? (i : Invocation) : Option GenerationResult :=
  match i.stage with
  | .leaving _ result | .finished result => some result
  | _ => none

@[simp] theorem held?_finish (i : Invocation) (result : GenerationResult) :
    (i.finish result).held? = none := by
  cases result <;> rfl

@[simp] theorem settled?_finish (i : Invocation) (result : GenerationResult) :
    (i.finish result).settled? = some result := by
  cases result <;> rfl

@[simp] theorem stage_finish (i : Invocation) (result : GenerationResult) :
    (i.finish result).stage = .finished result := by
  cases result <;> rfl

@[simp] theorem stage_planned (s : Settings) (i : Invocation) (d relative : Path)
    (text : Option Text) : (i.planned s d relative text).stage =
      .writing (TestPlan.ofText s i.request.location.source d relative text) :=
  rfl

@[simp] theorem held?_planned (s : Settings) (i : Invocation) (d relative : Path)
    (text : Option Text) : (i.planned s d relative text).held? = some d :=
  rfl

@[simp] theorem request_planned (s : Settings) (i : Invocation) (d relative : Path)
    (text : Option Text) : (i.planned s d relative text).request = i.request := by
  unfold planned
  split <;> rfl

@[simp] theorem prompts_planned (s : Settings) (i : Invocation) (d relative : Path)
    (text : Option Text) : (i.planned s d relative text).prompts = i.prompts := by
  unfold planned
  split <;> rfl

theorem settled?_of_result? {i : Invocation} {result : GenerationResult}
    (h : i.result? = some result) : i.settled? = some result := by
  unfold result? at h
  unfold settled?
  cases hstage : i.stage with
  | finished _ => simpa [hstage] using h
  | _ => simp [hstage] at h

variable {σ : Type} [FileStore σ]

/-- The ways a step of a generation can go. -/
inductive Transition (s : Settings) (w : World σ) (i : Invocation) : World σ → Invocation → Prop
  | refused {e : GenerationError} (hstage : i.stage = .claiming)
      (hdest : i.request.destination s = .error e) :
      Transition s w i w (i.finish (.error e))
  | collided {d : Path} (hstage : i.stage = .claiming)
      (hdest : i.request.destination s = .ok d) (hclaim : w.inFlight.claim? d = none) :
      Transition s w i w (i.finish (.error (.inFlight d)))
  | claimed {d : Path} {f : InFlight} (hstage : i.stage = .claiming)
      (hdest : i.request.destination s = .ok d) (hclaim : w.inFlight.claim? d = some f) :
      Transition s w i { w with inFlight := f } { i with stage := .checking d }
  | absent {d : Path} (hstage : i.stage = .checking d)
      (hholds : FileStore.holds w.store d = false) :
      Transition s w i w { i with stage := .reading d }
  | present {d : Path} (hstage : i.stage = .checking d)
      (hholds : FileStore.holds w.store d = true) :
      Transition s w i w { i with stage := .asking d }
  | allowed {d : Path} (hstage : i.stage = .asking d) (hanswer : i.request.overwrite = true) :
      Transition s w i w { i with prompts := i.prompts ++ [d], stage := .reading d }
  | declined {d : Path} (hstage : i.stage = .asking d) (hanswer : i.request.overwrite = false) :
      Transition s w i w
        { i with
          prompts := i.prompts ++ [d]
          notes := i.notes ++ [⟨.info, "Test file already exists: ".toList ++ d.text⟩]
          stage := .leaving d (.ok (.skipped d)) }
  /-- The source turns out not to lie in the workspace. -/
  | misplaced {d : Path} {e : GenerationError} (hstage : i.stage = .reading d)
      (hrelative : i.request.location.relative = .error e) :
      Transition s w i w { i with stage := .leaving d (.error e) }
  | planned {d relative : Path} (hstage : i.stage = .reading d)
      (hrelative : i.request.location.relative = .ok relative) :
      Transition s w i w (i.planned s d relative
        (FileStore.read w.store i.request.location.source).toOption)
  | unwritten {plan : TestPlan} {store : σ} {cause : FileError} (hstage : i.stage = .writing plan)
      (hwrite : FileStore.write w.store plan.destination plan.content = (store, .error cause)) :
      Transition s w i { w with store }
        { i with stage := .leaving plan.destination (.error (.write plan.destination cause)) }
  | written {plan : TestPlan} {store : σ} (hstage : i.stage = .writing plan)
      (hwrite : FileStore.write w.store plan.destination plan.content = (store, .ok ())) :
      Transition s w i { w with store }
        { i with
          notes := i.notes ++ [⟨.info, "Test file created: ".toList ++ plan.destination.text⟩]
          stage := .leaving plan.destination (.ok (.created plan.summary)) }
  | left {d : Path} {result : GenerationResult} (hstage : i.stage = .leaving d result) :
      Transition s w i { w with inFlight := w.inFlight.release d } (i.finish result)
  | rested {result : GenerationResult} (hstage : i.stage = .finished result) :
      Transition s w i w i

theorem transition_step (s : Settings) (w : World σ) (i : Invocation) :
    Transition s w i (step s w i).1 (step s w i).2 := by
  unfold step
  cases hstage : i.stage with
  | claiming =>
    cases hdest : i.request.destination s with
    | error e => exact .refused hstage hdest
    | ok d =>
      cases hclaim : w.inFlight.claim? d with
      | none =>
        simp only [hclaim]
        exact .collided hstage hdest hclaim
      | some f =>
        simp only [hclaim]
        exact .claimed hstage hdest hclaim
  | checking d =>
    cases hholds : FileStore.holds w.store d with
    | false =>
      simp only [hholds, Bool.false_eq_true, ↓reduceIte]
      exact .absent hstage hholds
    | true =>
      simp only [hholds, ↓reduceIte]
      exact .present hstage hholds
  | asking d =>
    cases hanswer : i.request.overwrite with
    | false =>
      simp only [hanswer, Bool.false_eq_true, ↓reduceIte]
      exact .declined hstage hanswer
    | true =>
      simp only [hanswer, ↓reduceIte]
      exact .allowed hstage hanswer
  | reading d =>
    cases hrelative : i.request.location.relative with
    | error e => exact .misplaced hstage hrelative
    | ok relative => exact .planned hstage hrelative
  | writing plan =>
    rcases hwrite : FileStore.write w.store plan.destination plan.content with ⟨store, e | _⟩
    · simp only [hwrite]
      exact .unwritten hstage hwrite
    · simp only [hwrite]
      exact .written hstage hwrite
  | leaving d result => exact .left hstage
  | finished result => exact .rested hstage

variable {s : Settings} {w w' : World σ} {i i' : Invocation}

/-- What a generation has claimed changes together with what is claimed: a step claims the
destination, releases it, or leaves all claims alone. -/
theorem Transition.claims (h : Transition s w i w' i') :
    (w'.inFlight = w.inFlight ∧ i'.held? = i.held?) ∨
    (∃ d, i.held? = none ∧ i'.held? = some d ∧ w.inFlight.claim? d = some w'.inFlight) ∨
    (∃ d, i.held? = some d ∧ i'.held? = none ∧ w'.inFlight = w.inFlight.release d) := by
  cases h with
  | refused hstage hdest =>
    refine Or.inl ⟨rfl, ?_⟩
    simp [held?, hstage]
  | collided hstage hdest hclaim =>
    refine Or.inl ⟨rfl, ?_⟩
    simp [held?, hstage]
  | @claimed d f hstage hdest hclaim =>
    refine Or.inr (Or.inl ⟨d, ?_, rfl, hclaim⟩)
    simp [held?, hstage]
  | @left d result hstage =>
    refine Or.inr (Or.inr ⟨d, ?_, held?_finish i result, rfl⟩)
    simp [held?, hstage]
  | planned hstage hrelative =>
    refine Or.inl ⟨rfl, ?_⟩
    rw [held?_planned]
    simp [held?, hstage]
  | _ hstage =>
    refine Or.inl ⟨rfl, ?_⟩
    simp [held?, hstage]

/-- Only a generation at its write makes that access, and it holds where it writes. -/
theorem access?_eq_write_iff {i : Invocation} {path : Path} {content : Text} :
    i.access? = some (.write path content) ↔
      ∃ plan, i.stage = .writing plan ∧ plan.destination = path ∧ plan.content = content := by
  unfold access?
  cases hstage : i.stage with
  | reading d =>
    cases i.request.location.relative with
    | error e => simp
    | ok relative => simp
  | _ => simp

theorem held?_of_write {i : Invocation} {path : Path} {content : Text}
    (h : i.access? = some (.write path content)) : i.held? = some path := by
  obtain ⟨plan, hstage, rfl, -⟩ := access?_eq_write_iff.mp h
  simp [held?, hstage]

/-- The files change by the access that a step makes, and not otherwise. -/
theorem Transition.store (h : Transition s w i w' i') :
    w'.store = i.access?.elim w.store (Access.effect w.store) := by
  cases h with
  | unwritten hstage hwrite => simp [access?, hstage, Access.effect, hwrite]
  | written hstage hwrite => simp [access?, hstage, Access.effect, hwrite]
  | planned hstage hrelative => simp [access?, hstage, hrelative, Access.effect]
  | misplaced hstage hrelative => simp [access?, hstage, hrelative]
  | _ hstage => simp [access?, hstage, Access.effect]

/-- Whoever wanted the test is asked by the access that a step makes, and not otherwise. -/
theorem Transition.prompts (h : Transition s w i w' i') :
    i'.prompts = i.prompts ++ (i.access?.bind Access.question?).toList := by
  cases h with
  | refused hstage => simp [access?, hstage, finish]
  | collided hstage => simp [access?, hstage, finish]
  | planned hstage hrelative => simp [access?, hstage, hrelative, Access.question?]
  | misplaced hstage hrelative => simp [access?, hstage, hrelative]
  | @left d result hstage => cases result <;> simp [access?, hstage, finish]
  | _ hstage => simp [access?, hstage, Access.question?]

end Invocation

/-- Whether an access learns the same from two stores. -/
def Access.agrees {σ : Type} [FileStore σ] (x y : σ) : Access → Prop
  | .look path => FileStore.holds x path = FileStore.holds y path
  | .prompt _ _ => True
  | .read path => FileStore.read x path = FileStore.read y path
  | .write path content => (FileStore.write x path content).2 = (FileStore.write y path content).2

/-- A generation learns from the files what its access says, and nothing else. -/
theorem Invocation.step_of_agrees {σ : Type} [FileStore σ] (s : Settings) (w : World σ) (store : σ)
    (i : Invocation) (h : ∀ a, i.access? = some a → a.agrees w.store store) :
    (step s { w with store } i).1.inFlight = (step s w i).1.inFlight ∧
      (step s { w with store } i).2 = (step s w i).2 := by
  unfold step
  cases hstage : i.stage with
  | claiming =>
    cases i.request.destination s with
    | error e => exact ⟨rfl, rfl⟩
    | ok d =>
      cases hclaim : w.inFlight.claim? d with
      | none => simp [hclaim]
      | some f => simp [hclaim]
  | checking d =>
    have hlook : FileStore.holds w.store d = FileStore.holds store d :=
      h (.look d) (by simp [access?, hstage])
    exact ⟨rfl, by simp only [hlook]⟩
  | asking d =>
    cases hanswer : i.request.overwrite with
    | false => simp [hanswer]
    | true => simp [hanswer]
  | reading d =>
    cases hrelative : i.request.location.relative with
    | error e => exact ⟨rfl, rfl⟩
    | ok relative =>
      have hread : FileStore.read w.store i.request.location.source =
          FileStore.read store i.request.location.source :=
        h (.read i.request.location.source) (by simp [access?, hstage, hrelative])
      exact ⟨rfl, by simp only [hread]⟩
  | writing plan =>
    have hwrite : (FileStore.write w.store plan.destination plan.content).2 =
        (FileStore.write store plan.destination plan.content).2 :=
      h (.write plan.destination plan.content) (by simp [access?, hstage])
    rcases hx : FileStore.write w.store plan.destination plan.content with ⟨x, e | _⟩
    · rcases hy : FileStore.write store plan.destination plan.content with ⟨y, e' | _⟩
      · simp only [hx, hy, Except.error.injEq] at hwrite
        simp [hx, hy, hwrite]
      · simp [hx, hy] at hwrite
    · rcases hy : FileStore.write store plan.destination plan.content with ⟨y, e' | _⟩
      · simp [hx, hy] at hwrite
      · simp [hx, hy]
  | leaving d result => exact ⟨rfl, rfl⟩
  | finished result => exact ⟨rfl, rfl⟩

end TestScaffold
