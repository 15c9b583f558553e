import TestScaffold.Proofs.Generation.Claims
import TestScaffold.Proofs.Generation.Destination
import TestScaffold.Proofs.Generation.Transition

/-!
A generation that nothing interrupts, in one piece: the five ways in which it can end, each with
what it leaves of the files, whom it has asked and what it has told. All of them leave the
claims as they were.
-/

namespace TestScaffold

/-- What is told of a source before its test is written: that it could not be read, if so. -/
def Request.warnings {σ : Type} [FileStore σ] (r : Request) (store : σ) : List Note :=
  if (FileStore.read store r.location.source).toOption.isSome then []
  else [⟨.warning, "Could not read ".toList ++ r.location.source.text ++
    ", generating a test without mocks".toList⟩]

namespace Invocation

variable {σ : Type} [FileStore σ]

/-- The ways a generation that nothing interrupts can end. -/
inductive Exit (s : Settings) (w : World σ) (r : Request) : World σ → Invocation → Prop
  | refused {e : GenerationError} (hdest : r.destination s = .error e) :
      Exit s w r w { request := r, stage := .finished (.error e), notes := [e.note] }
  | collided {d : Path} (hdest : r.destination s = .ok d) (hheld : w.inFlight.isHeld d = true) :
      Exit s w r w
        { request := r
          stage := .finished (.error (.inFlight d))
          notes := [(GenerationError.inFlight d).note] }
  | declined {d : Path} (hdest : r.destination s = .ok d) (hfree : w.inFlight.isHeld d = false)
      (hholds : FileStore.holds w.store d = true) (hanswer : r.overwrite = false) :
      Exit s w r w
        { request := r
          stage := .finished (.ok (.skipped d))
          prompts := [d]
          notes := [⟨.info, "Test file already exists: ".toList ++ d.text⟩] }
  | unwritten {p : TestPlan} {store : σ} {cause : FileError}
      (hdest : r.destination s = .ok p.destination)
      (hfree : w.inFlight.isHeld p.destination = false)
      (hmay : FileStore.holds w.store p.destination = true → r.overwrite = true)
      (hplan : plan s w.store r.location = .ok p)
      (hwrite : FileStore.write w.store p.destination p.content = (store, .error cause)) :
      Exit s w r { w with store }
        { request := r
          stage := .finished (.error (.write p.destination cause))
          prompts := if FileStore.holds w.store p.destination then [p.destination] else []
          notes := r.warnings w.store ++ [(GenerationError.write p.destination cause).note] }
  | created {p : TestPlan} {store : σ}
      (hdest : r.destination s = .ok p.destination)
      (hfree : w.inFlight.isHeld p.destination = false)
      (hmay : FileStore.holds w.store p.destination = true → r.overwrite = true)
      (hplan : plan s w.store r.location = .ok p)
      (hwrite : FileStore.write w.store p.destination p.content = (store, .ok ())) :
      Exit s w r { w with store }
        { request := r
          stage := .finished (.ok (.created p.summary))
          prompts := if FileStore.holds w.store p.destination then [p.destination] else []
          notes := r.warnings w.store ++
            [⟨.info, "Test file created: ".toList ++ p.destination.text⟩] }

theorem steps_succ (s : Settings) (n : Nat) (w : World σ) (i : Invocation) :
    steps s (n + 1) (w, i) = steps s n (step s w i) :=
  rfl

theorem steps_of_finished (s : Settings) (n : Nat) (w : World σ) {i : Invocation}
    {result : GenerationResult} (h : i.stage = .finished result) :
    steps s n (w, i) = (w, i) := by
  induction n with
  | zero => rfl
  | succ n ih =>
    rw [steps_succ]
    have hstep : step s w i = (w, i) := by simp only [step, h]
    rw [hstep, ih]

/-- The generation from the write on, which is its last step but one. -/
theorem steps_of_writing (s : Settings) (n : Nat) (w : World σ) {i : Invocation} {p : TestPlan}
    (h : i.stage = .writing p) :
    steps s (n + 2) (w, i) =
      match FileStore.write w.store p.destination p.content with
      | (store, .error cause) =>
        ({ store, inFlight := w.inFlight.release p.destination },
          i.finish (.error (.write p.destination cause)))
      | (store, .ok ()) =>
        ({ store, inFlight := w.inFlight.release p.destination },
          (i.tell .info ("Test file created: ".toList ++ p.destination.text)).finish
            (.ok (.created p.summary))) := by
  rcases hwrite : FileStore.write w.store p.destination p.content with ⟨store, cause | _⟩
  · rw [steps_succ, steps_succ]
    simp only [step, h, hwrite]
    rw [steps_of_finished s n _ (stage_finish _ _)]
    rfl
  · rw [steps_succ, steps_succ]
    simp only [step, h, hwrite]
    rw [steps_of_finished s n _ (stage_finish _ _)]
    rfl

theorem notes_planned (s : Settings) (i : Invocation) (d relative : Path) (store : σ) :
    (i.planned s d relative (FileStore.read store i.request.location.source).toOption).notes =
      i.notes ++ i.request.warnings store := by
  unfold planned Request.warnings
  cases (FileStore.read store i.request.location.source).toOption.isSome with
  | true => simp
  | false => rfl

/-- A source that lies in its workspace has a plan, for the destination of its request. -/
theorem plan_of_destination {s : Settings} {r : Request} {d : Path} (store : σ)
    (hdest : r.destination s = .ok d) :
    ∃ relative, r.location.relative = .ok relative ∧
      plan s store r.location = .ok (TestPlan.ofText s r.location.source d relative
        (FileStore.read store r.location.source).toOption) := by
  obtain ⟨relative, hrelative⟩ := Request.relative_of_destination hdest
  refine ⟨relative, hrelative, ?_⟩
  unfold plan
  rw [Request.testPath_of_destination hdest, hrelative]
  rfl

section Exits

variable {s : Settings} {w : World σ} {r : Request} {d : Path} {f : InFlight}

/-- The way out of a generation that has found that it may write. -/
theorem exit_of_reading (hdest : r.destination s = .ok d) (hclaim : w.inFlight.claim? d = some f)
    (hmay : FileStore.holds w.store d = true → r.overwrite = true) (n : Nat) {i : Invocation}
    (hi : i = { request := r, stage := .reading d,
                prompts := if FileStore.holds w.store d then [d] else [] }) :
    Exit s w r (steps s (n + 3) ({ w with inFlight := f }, i)).1
      (steps s (n + 3) ({ w with inFlight := f }, i)).2 := by
  obtain ⟨relative, hrelative, hplan⟩ := plan_of_destination w.store hdest
  let text := (FileStore.read w.store r.location.source).toOption
  let p := TestPlan.ofText s r.location.source d relative text
  let j := i.planned s d relative text
  have hj : j.stage = .writing p := by rw [stage_planned, hi]
  have hnotes : j.notes = r.warnings w.store := by
    have h := notes_planned s i d relative w.store
    rw [hi] at h
    simpa [j, text, hi] using h
  have hprompts : j.prompts = if FileStore.holds w.store d then [d] else [] := by
    rw [prompts_planned, hi]
  have hrequest : j.request = r := by rw [request_planned, hi]
  have hstep : step s { w with inFlight := f } i = ({ w with inFlight := f }, j) := by
    simp only [step, hi, hrelative, j, text]
  have hfree : w.inFlight.isHeld d = false := InFlight.isHeld_of_claim? hclaim
  have hrelease : f.release d = w.inFlight := InFlight.release_of_claim? hclaim
  rw [steps_succ, hstep, steps_of_writing s n _ hj]
  rcases hwrite : FileStore.write w.store p.destination p.content with ⟨store, cause | _⟩
  · have hexit := Exit.unwritten (p := p) hdest hfree hmay hplan hwrite
    have hend : j.finish (.error (.write p.destination cause)) =
        { request := r
          stage := .finished (.error (.write p.destination cause))
          prompts := if FileStore.holds w.store p.destination then [p.destination] else []
          notes := r.warnings w.store ++ [(GenerationError.write p.destination cause).note] } := by
      simp only [finish, hnotes, hprompts, hrequest]
      rfl
    simp only [hend]
    rw [show f.release p.destination = w.inFlight from hrelease]
    exact hexit
  · have hexit := Exit.created (p := p) hdest hfree hmay hplan hwrite
    have hend : (j.tell .info ("Test file created: ".toList ++ p.destination.text)).finish
          (.ok (.created p.summary)) =
        { request := r
          stage := .finished (.ok (.created p.summary))
          prompts := if FileStore.holds w.store p.destination then [p.destination] else []
          notes := r.warnings w.store ++
            [⟨.info, "Test file created: ".toList ++ p.destination.text⟩] } := by
      simp only [finish, tell, hnotes, hprompts, hrequest]
      rfl
    simp only [hend]
    rw [show f.release p.destination = w.inFlight from hrelease]
    exact hexit

/-- Every generation that nothing interrupts ends in one of these ways. -/
theorem exit_generate (s : Settings) (w : World σ) (r : Request) :
    Exit s w r (generate s w r).1 (generate s w r).2 := by
  have hrun : generate s w r = steps s 5 (step s w { request := r }) := rfl
  rw [hrun]
  cases hdest : r.destination s with
  | error e =>
    have hstep : step s w { request := r } = (w, finish { request := r } (.error e)) := by
      simp only [step, hdest]
    rw [hstep, steps_of_finished s 5 w (stage_finish _ _)]
    exact .refused hdest
  | ok d =>
    cases hclaim : w.inFlight.claim? d with
    | none =>
      have hstep : step s w { request := r } =
          (w, finish { request := r } (.error (.inFlight d))) := by
        simp only [step, hdest, hclaim]
      rw [hstep, steps_of_finished s 5 w (stage_finish _ _)]
      exact .collided hdest (InFlight.isHeld_of_claim?_eq_none hclaim)
    | some f =>
      -- From here on the destination is claimed, and every way out releases it.
      have hstep : step s w { request := r } =
          ({ w with inFlight := f }, { request := r, stage := .checking d }) := by
        simp only [step, hdest, hclaim]
      rw [hstep, steps_succ]
      cases hholds : FileStore.holds w.store d with
      | false =>
        have hlook : step s { w with inFlight := f } { request := r, stage := .checking d } =
            ({ w with inFlight := f }, { request := r, stage := .reading d }) := by
          simp only [step, hholds, Bool.false_eq_true, ↓reduceIte]
        rw [hlook]
        refine exit_of_reading hdest hclaim ?_ 1 ?_
        · simp [hholds]
        · simp [hholds]
      | true =>
        have hlook : step s { w with inFlight := f } { request := r, stage := .checking d } =
            ({ w with inFlight := f }, { request := r, stage := .asking d }) := by
          simp only [step, hholds, ↓reduceIte]
        rw [hlook, steps_succ]
        cases hanswer : r.overwrite with
        | true =>
          have hask : step s { w with inFlight := f } { request := r, stage := .asking d } =
              ({ w with inFlight := f },
                { request := r, stage := .reading d, prompts := [d] }) := by
            simp only [step, hanswer, ↓reduceIte, List.nil_append]
          rw [hask]
          refine exit_of_reading hdest hclaim ?_ 0 ?_
          · intro _
            exact hanswer
          · simp [hholds]
        | false =>
          have hend : steps s 3 (step s { w with inFlight := f }
                { request := r, stage := .asking d }) =
              ({ w with inFlight := f.release d },
                { request := r
                  stage := .finished (.ok (.skipped d))
                  prompts := [d]
                  notes := [⟨.info, "Test file already exists: ".toList ++ d.text⟩] }) := by
            simp only [step, hanswer, Bool.false_eq_true, ↓reduceIte, List.nil_append, tell]
            rw [steps_succ]
            simp only [step]
            rw [steps_of_finished s 2 _ (stage_finish _ _)]
            rfl
          rw [hend, InFlight.release_of_claim? hclaim]
          exact .declined hdest (InFlight.isHeld_of_claim? hclaim) hholds hanswer

end Exits

end Invocation

end TestScaffold
