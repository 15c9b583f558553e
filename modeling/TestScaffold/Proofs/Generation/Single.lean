import TestScaffold.Proofs.Generation.CarriedOut

/-!
A generation as a function of the files. While no destination is claimed, what a request comes to
and what it leaves of the files is decided by the files that it finds: it is refused or skipped, or
its test is planned and written.
-/

namespace TestScaffold

namespace Request

variable {σ : Type} [FileStore σ]

/-- The files after a request, and its result, when no destination is claimed. -/
def carryOut (s : Settings) (store : σ) (r : Request) : σ × GenerationResult :=
  match r.destination s, plan s store r.location with
  | .error e, _ => (store, .error e)
  | .ok _, .error e => (store, .error e)
  | .ok d, .ok p =>
    if FileStore.holds store d = true ∧ r.overwrite = false then (store, .ok (.skipped d))
    else
      match FileStore.write store d p.content with
      | (after, .error cause) => (after, .error (.write d cause))
      | (after, .ok ()) => (after, .ok (.created p.summary))

variable {s : Settings} {store : σ} {r : Request} {d : Path} {p : TestPlan}

theorem carryOut_of_refused {e : GenerationError} (hdest : r.destination s = .error e) :
    r.carryOut s store = (store, .error e) := by
  unfold carryOut
  rw [hdest]

theorem carryOut_of_declined (hdest : r.destination s = .ok d)
    (hholds : FileStore.holds store d = true) (hanswer : r.overwrite = false) :
    r.carryOut s store = (store, .ok (.skipped d)) := by
  obtain ⟨relative, -, hplan⟩ := Invocation.plan_of_destination store hdest
  unfold carryOut
  rw [hdest, hplan]
  exact if_pos ⟨hholds, hanswer⟩

theorem carryOut_of_plan (hdest : r.destination s = .ok d)
    (hmay : FileStore.holds store d = true → r.overwrite = true)
    (hplan : plan s store r.location = .ok p) :
    r.carryOut s store =
      match FileStore.write store d p.content with
      | (after, .error cause) => (after, .error (.write d cause))
      | (after, .ok ()) => (after, .ok (.created p.summary)) := by
  unfold carryOut
  rw [hdest, hplan]
  apply if_neg
  rintro ⟨hholds, hanswer⟩
  cases hanswer.symm.trans (hmay hholds)

end Request

section

variable {σ : Type} [FileStore σ] {s : Settings} {w w' : World σ} {r : Request} {i : Invocation}

theorem Invocation.Exit.carryOut_eq (h : Exit s w r w' i) (hclaims : w.inFlight = .empty) :
    w'.store = (r.carryOut s w.store).1 ∧ i.result? = some (r.carryOut s w.store).2 := by
  cases h with
  | refused hdest =>
    rw [Request.carryOut_of_refused hdest]
    exact ⟨rfl, rfl⟩
  | collided hdest hheld =>
    rw [hclaims] at hheld
    cases hheld
  | declined hdest hfree hholds hanswer =>
    rw [Request.carryOut_of_declined hdest hholds hanswer]
    exact ⟨rfl, rfl⟩
  | unwritten hdest hfree hmay hplan hwrite =>
    rw [Request.carryOut_of_plan hdest hmay hplan, hwrite]
    exact ⟨rfl, rfl⟩
  | created hdest hfree hmay hplan hwrite =>
    rw [Request.carryOut_of_plan hdest hmay hplan, hwrite]
    exact ⟨rfl, rfl⟩

/-- A generation that nothing interrupts carries its request out. -/
theorem generate_eq_carryOut (s : Settings) (store : σ) (r : Request) :
    (generate s { store } r).1.store = (r.carryOut s store).1 ∧
      (generate s { store } r).2.result? = some (r.carryOut s store).2 :=
  (Invocation.exit_generate s { store } r).carryOut_eq rfl

/-- A forced request whose source has a plan writes the planned test. -/
theorem Request.carryOut_forced {l : LocalFiles} {root source : Path} {p : TestPlan}
    (hroot : root.isAbsolute = true) (hplan : plan s l ⟨root, source⟩ = .ok p) :
    (Request.forced root source).carryOut s l =
      match l.write p.destination p.content with
      | (after, .error cause) => (after, .error (.write p.destination cause))
      | (after, .ok ()) => (after, .ok (.created p.summary)) := by
  have hdest : (Request.forced root source).destination s = .ok p.destination :=
    (Request.destination_eq_ok_iff hroot).mpr (testPath_of_plan hplan).2
  rw [Request.carryOut_of_plan hdest (fun _ => rfl) hplan]
  rcases hwrite : l.write p.destination p.content with ⟨after, cause | _⟩
  · rw [show FileStore.write l p.destination p.content = (after, .error cause) from hwrite]
  · rw [show FileStore.write l p.destination p.content = (after, .ok ()) from hwrite]

end

end TestScaffold
